/-
# Proofs.Index.Below -- what an index has right below a node

The children of an indexed node are ids.  Looked up in the index they give back the nodes right below: each is there, has
the node as its parent (`exists_node_below`) and another id (`child_id_ne`).  So what the indexed children under a field
are called is what the children of the object are called (`map_name?_childField`), and for a field with a list these are
the nodes in the list (`map_name?_childField_of_array`).
-/
import SolidityNav.Proofs.Index.Fields

namespace SolidityNav

set_option autoImplicit false

open SolidityNav.Ast (Node NodeId RawNode)
open SolidityNav.Ast.RawNode (Visit)

/-- The node that a field holds is a child, if the field may hold one. -/
theorem Ast.RawNode.mem_children_of_child? {raw child : RawNode} {name : String} (free : name ∉ Ast.scalarFields)
    (found : raw.child? name = some child) : (name, child) ∈ raw.children := by
  obtain ⟨value, stored, -⟩ := Option.bind_eq_some_iff.mp found
  refine mem_children.mpr ⟨value, Table.mem_of_find? stored, free, ?_⟩
  rw [held_eq_child_or_list stored, found]
  simp

namespace Index

section Filable

variable {root : RawNode} (filable : root.Filable)
include filable

/-- **What is right below a node is indexed**, with the node as its parent. -/
theorem exists_node_below {visit : Visit} (visited : visit ∈ root.visits []) {child : String × RawNode}
    (isChild : child ∈ visit.raw.children) :
    ∃ node, root.index.node? child.2.id = some node ∧ node.id = child.2.id ∧ node.parent = some visit.raw.id ∧
      node.name? = child.2.name? := by
  have below := RawNode.child_mem_visits visited isChild
  obtain ⟨node, indexed⟩ := exists_node_of_mem_visits filable below
  obtain ⟨id, -, -, parent, -⟩ := fields_of_node? indexed
  exact ⟨node, (node?_index_eq_some_iff filable).mpr ⟨_, below, indexed, rfl⟩, id, parent, name?_of_node? indexed⟩

theorem child_id_ne {visit : Visit} (visited : visit ∈ root.visits []) {child : String × RawNode}
    (isChild : child ∈ visit.raw.children) : child.2.id ≠ visit.raw.id := by
  intro same
  have twice := eq_of_raw_id_eq filable (RawNode.child_mem_visits visited isChild) visited same
  -- A node is on a longer path than the node right above it.
  have longer := congrArg (fun visit : Visit => visit.above.length) twice
  simp at longer

/-- The indexed children under a field have the names of the children of the object. -/
theorem map_name?_childField {visit : Visit} (visited : visit ∈ root.visits []) {node : Node}
    (indexed : visit.node? = some node) (field : String) :
    ((node.childField field).map fun id => (root.index.node? id).map Node.name?) =
      (visit.raw.children.filter (·.1 = field)).map fun child => some child.2.name? := by
  rw [childField_of_node? indexed, List.map_map]
  refine List.map_congr_left fun child member => ?_
  obtain ⟨below, stored, -, -, name⟩ := exists_node_below filable visited (List.mem_of_mem_filter member)
  simp [stored, name]

theorem map_name?_childField_of_array {visit : Visit} (visited : visit ∈ root.visits []) {node : Node}
    (indexed : visit.node? = some node) (distinct : (visit.raw.fields.map Prod.fst).Nodup) {field : String}
    (free : field ∉ Ast.scalarFields) {items : List Json} (list : visit.raw.field? field = some (.array items)) :
    ((node.childField field).map fun id => (root.index.node? id).map Node.name?) =
      (visit.raw.childList field).map fun child => some child.name? := by
  rw [map_name?_childField filable visited indexed, RawNode.filter_children distinct,
    RawNode.under_of_field? free list, RawNode.childList, list, RawNode.held, List.map_map]
  rfl

end Filable

end Index

end SolidityNav
