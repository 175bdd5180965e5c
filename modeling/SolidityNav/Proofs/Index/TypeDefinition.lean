/-
# Proofs.Index.TypeDefinition -- from a reference to the type of its declaration

A reference leads to the node with the id that it has, in whatever AST that node is.  When the declaration has a type name
below it, the type definition is the first one; otherwise it is the declaration itself.  So both are there or both are not,
and where they differ the one is right below the other.

This is said of indexes that were put together from ASTs without an id in common (`Assembled`).  Such an index holds the
nodes of all its ASTs and no others (`Assembled.node?_eq_some_iff`), so what links a node to its type name within its own
AST still does so after merges.
-/
import SolidityNav.Proofs.Index.Below
import SolidityNav.Proofs.Index.Closure

namespace SolidityNav

set_option autoImplicit false

open SolidityNav.Ast (Node NodeId RawNode)
open SolidityNav.Ast.RawNode (Visit)

def Ast.RawNode.typeChild? (raw : RawNode) : Option RawNode :=
  (raw.children.find? (·.1 = "typeName")).map Prod.snd

namespace Index

/-! ## Indexes of several ASTs -/

/-- The index comes from building the ASTs with these roots and merging the indexes, never two that share an id. -/
inductive Assembled : List RawNode → Index → Prop
  | built {ast : Json} {root : RawNode} {index : Index} :
      RawNode.ofJson? ast = some root → build ast = .ok index → Assembled [root] index
  | merged {roots others : List RawNode} {index other : Index} :
      Assembled roots index → Assembled others other → index.Apart other →
      Assembled (roots ++ others) (index.merge other)

/-- With no id in common, a merge has the nodes of both indexes. -/
theorem node?_merge_eq_some_iff {index other : Index} (apart : index.Apart other) {id : NodeId} {node : Node} :
    (index.merge other).node? id = some node ↔ index.node? id = some node ∨ other.node? id = some node := by
  rw [node?_merge_eq, Option.or_eq_some_iff]
  constructor
  · rintro (taken | ⟨-, kept⟩)
    · exact Or.inr taken
    · exact Or.inl kept
  · rintro (kept | taken)
    · right
      have missing := apart id (mem_nodes_iff.mpr ⟨node, kept⟩)
      rw [mem_nodes_iff, not_exists] at missing
      exact ⟨Option.eq_none_iff_forall_ne_some.mpr missing, kept⟩
    · exact Or.inl taken

namespace Assembled

theorem filable {roots : List RawNode} {index : Index} (assembled : Assembled roots index) :
    ∀ root ∈ roots, root.Filable := by
  induction assembled with
  | built read built =>
      obtain ⟨root, readRoot, filable, -⟩ := build_eq_ok_iff.mp built
      cases read.symm.trans readRoot
      simpa using filable
  | merged _ _ _ ih ihOther =>
      intro root member
      exact (List.mem_append.mp member).elim (ih root) (ihOther root)

/-- **The index holds the nodes of its ASTs and no others.** -/
theorem node?_eq_some_iff {roots : List RawNode} {index : Index} (assembled : Assembled roots index) {id : NodeId}
    {node : Node} : index.node? id = some node ↔ ∃ root ∈ roots, root.index.node? id = some node := by
  induction assembled with
  | built read built =>
      obtain ⟨root, readRoot, -, rfl⟩ := build_eq_ok_iff.mp built
      cases read.symm.trans readRoot
      simp
  | merged _ _ apart ih ihOther =>
      simp only [node?_merge_eq_some_iff apart, ih, ihOther, List.mem_append, or_and_right, exists_or]

end Assembled

/-! ## Type names -/

theorem typeName?_of_node? {visit : Visit} {node : Node} (indexed : visit.node? = some node) :
    node.typeName? = visit.raw.typeChild?.map RawNode.id := by
  rw [Node.typeName?, childField_of_node? indexed, List.head?_map, List.head?_filter, RawNode.typeChild?, Option.map_map]
  rfl

theorem mem_children_of_typeChild? {raw typeName : RawNode} (found : raw.typeChild? = some typeName) :
    ∃ child ∈ raw.children, child.2 = typeName := by
  obtain ⟨child, first, same⟩ := Option.map_eq_some_iff.mp found
  exact ⟨child, List.mem_of_find?_eq_some first, same⟩

theorem typeDefinition?_of_untyped {index : Index} {node declaration : Node}
    (declared : index.definition? node = some declaration) (untyped : declaration.typeName? = none) :
    index.typeDefinition? node = some declaration := by
  simp [typeDefinition?, declared, untyped]

theorem isSome_typeDefinition? (index : Index) (node : Node) :
    (index.typeDefinition? node).isSome = (index.definition? node).isSome := by
  cases declared : index.definition? node with
  | none => simp [typeDefinition?, declared]
  | some declaration =>
      simp only [typeDefinition?, declared, Option.bind_eq_bind, Option.bind_some]
      split <;> simp

/-! ## Where a node leads -/

/-- The node leads to the declaration with the object `target`, and on to its type. -/
structure LeadsTo (index : Index) (node : Node) (target : RawNode) (declaration : Node) : Prop where
  definition : index.definition? node = some declaration
  stored : index.node? target.id = some declaration
  id : declaration.id = target.id
  /-- A declaration without a type name stands for its type. -/
  untyped : target.typeChild? = none → index.typeDefinition? node = some declaration
  /-- Otherwise the first type name does, which is a node of its own right below the declaration. -/
  typed : ∀ typeName, target.typeChild? = some typeName →
    ∃ type, index.typeDefinition? node = some type ∧ index.node? typeName.id = some type ∧ type.id = typeName.id ∧
      type.parent = some declaration.id ∧ type.id ≠ declaration.id

/-- Where a node with the object `raw` leads, in an index of the ASTs with these roots. -/
structure Leads (roots : List RawNode) (index : Index) (raw : RawNode) (node : Node) : Prop where
  /-- There is a type definition exactly when there is a definition. -/
  both : (index.typeDefinition? node).isSome = (index.definition? node).isSome
  /-- There is one exactly when the object refers to the id of a node in one of the ASTs. -/
  resolves : (index.definition? node).isSome = true ↔
    ∃ root ∈ roots, ∃ target ∈ root.postorder, raw.reference? = some target.id
  /-- It is then the node with that id. -/
  refines : ∀ root ∈ roots, ∀ target ∈ root.postorder, raw.reference? = some target.id →
    ∃ declaration, LeadsTo index node target declaration

section Assembled

variable {roots : List RawNode} {index : Index} (assembled : Assembled roots index)
include assembled

theorem exists_leadsTo {node : Node} {root : RawNode} (member : root ∈ roots) {target : Visit}
    (visited : target ∈ root.visits []) (refers : node.reference? = some target.raw.id) :
    ∃ declaration, LeadsTo index node target.raw declaration := by
  have filable := assembled.filable root member
  obtain ⟨declaration, indexed⟩ := exists_node_of_mem_visits filable visited
  obtain ⟨id, -⟩ := fields_of_node? indexed
  have own := (node?_index_eq_some_iff filable).mpr ⟨target, visited, indexed, rfl⟩
  have stored := assembled.node?_eq_some_iff.mpr ⟨root, member, own⟩
  have declared : index.definition? node = some declaration := by simp [definition?, refers, stored]
  refine ⟨declaration, declared, stored, id, ?_, ?_⟩
  · intro untyped
    apply typeDefinition?_of_untyped declared
    rw [typeName?_of_node? indexed, untyped]
    rfl
  · intro typeName typed
    -- The type name is in the AST of the declaration, whatever AST the reference stands in.
    obtain ⟨child, isChild, rfl⟩ := mem_children_of_typeChild? typed
    obtain ⟨type, below, typeId, parent, -⟩ := exists_node_below filable visited isChild
    have found := assembled.node?_eq_some_iff.mpr ⟨root, member, below⟩
    refine ⟨type, ?_, found, typeId, by rw [id]; exact parent, ?_⟩
    · apply typeDefinition?_of_typed declared _ found
      rw [typeName?_of_node? indexed, typed]
      rfl
    · rw [typeId, id]
      exact child_id_ne filable visited isChild

theorem leads_of_reference? {raw : RawNode} {node : Node} (same : node.reference? = raw.reference?) :
    Leads roots index raw node where
  both := isSome_typeDefinition? index node
  resolves := by
    constructor
    · intro some
      obtain ⟨declaration, declared⟩ := Option.isSome_iff_exists.mp some
      obtain ⟨id, refers, stored⟩ := Option.bind_eq_some_iff.mp declared
      obtain ⟨root, member, own⟩ := assembled.node?_eq_some_iff.mp stored
      obtain ⟨target, visited, -, rfl⟩ := (node?_index_eq_some_iff (assembled.filable root member)).mp own
      exact ⟨root, member, target.raw, RawNode.raw_mem_postorder visited, same ▸ refers⟩
    · rintro ⟨root, member, raw', inTree, refers⟩
      rw [← root.map_raw_visits []] at inTree
      obtain ⟨target, visited, rfl⟩ := List.mem_map.mp inTree
      obtain ⟨declaration, leads⟩ := exists_leadsTo assembled member visited (same.trans refers)
      rw [leads.definition]
      rfl
  refines := by
    intro root member raw' inTree refers
    rw [← root.map_raw_visits []] at inTree
    obtain ⟨target, visited, rfl⟩ := List.mem_map.mp inTree
    exact exists_leadsTo assembled member visited (same.trans refers)

/-- **A type definition refines a definition.**  Every node of the index leads to the node of any AST that its object
refers to, and on to the type name right below that node. -/
theorem assembled_leads {id : NodeId} {node : Node} (found : index.node? id = some node) :
    ∃ root ∈ roots, ∃ raw ∈ root.postorder, raw.id = id ∧ Leads roots index raw node := by
  obtain ⟨root, member, own⟩ := assembled.node?_eq_some_iff.mp found
  obtain ⟨visit, visited, indexed, same⟩ := (node?_index_eq_some_iff (assembled.filable root member)).mp own
  exact ⟨root, member, visit.raw, RawNode.raw_mem_postorder visited, same,
    leads_of_reference? assembled (reference?_of_node? indexed)⟩

end Assembled

/-! ## A use in another source -/

/-- An AST with an identifier that refers to the variable of the sample, and with one that refers to a contract beside
it. -/
def importingAst : Json :=
  .object [
    ("id", .int 40), ("nodeType", .string "SourceUnit"), ("src", .string "0:20:1"),
    ("nodes", .array [
      .object [
        ("id", .int 41), ("nodeType", .string "Identifier"), ("src", .string "0:1:1"),
        ("referencedDeclaration", .int 3)],
      .object [
        ("id", .int 42), ("nodeType", .string "ContractDefinition"), ("src", .string "2:9:1"), ("name", .string "C")],
      .object [
        ("id", .int 43), ("nodeType", .string "Identifier"), ("src", .string "12:1:1"),
        ("referencedDeclaration", .int 42)]])]

/-- With the sample merged in, the first identifier leads to the type name below the variable, and the second one to the
contract itself. -/
theorem assembled_leads_importing :
    ∃ own sample roots far near, build importingAst = .ok own ∧ build sampleAst = .ok sample ∧
      Assembled roots (own.merge sample) ∧
      (own.merge sample).node? 41 = some far ∧ (own.merge sample).node? 43 = some near ∧
      (∃ root ∈ roots, ∃ raw ∈ root.postorder, raw.id = 41 ∧ Leads roots (own.merge sample) raw far) ∧
      (∃ root ∈ roots, ∃ raw ∈ root.postorder, raw.id = 43 ∧ Leads roots (own.merge sample) raw near) ∧
      ((own.merge sample).typeDefinition? far).map (fun type => (type.id, type.parent)) = some (2, some 3) ∧
      ((own.merge sample).typeDefinition? near).map Node.id = some 42 := by
  obtain ⟨own, built⟩ : ∃ own, build importingAst = .ok own := exists_of_isOk (by decide +kernel)
  obtain ⟨sample, builtSample⟩ := sampleAst_build
  obtain ⟨root, read, -⟩ := build_eq_ok_iff.mp built
  obtain ⟨sampleRoot, readSample, -⟩ := build_eq_ok_iff.mp builtSample
  have checked : ∀ own ∈ (build importingAst).toOption, ∀ sample ∈ (build sampleAst).toOption,
      (own.nodes.keys.all fun id => !sample.nodes.contains id) = true ∧
      (∃ far ∈ (own.merge sample).node? 41,
        ((own.merge sample).typeDefinition? far).map (fun type => (type.id, type.parent)) = some (2, some 3)) ∧
      ∃ near ∈ (own.merge sample).node? 43, ((own.merge sample).typeDefinition? near).map Node.id = some 42 := by
    decide +kernel
  rw [built, builtSample] at checked
  obtain ⟨apart, ⟨far, foundFar, typeFar⟩, near, foundNear, typeNear⟩ := checked own rfl sample rfl
  have assembled : Assembled ([root] ++ [sampleRoot]) (own.merge sample) :=
    .merged (.built read built) (.built readSample builtSample) (apart_iff_all.mpr apart)
  exact ⟨own, sample, _, far, near, built, builtSample, assembled, foundFar, foundNear,
    assembled_leads assembled foundFar, assembled_leads assembled foundNear, typeFar, typeNear⟩

end Index

end SolidityNav
