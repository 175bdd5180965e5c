/-
# Proofs.Index.Attributes -- what an indexed node keeps of its object

The fields of a node object that hold children are kept as lists of ids (`find?_groupByField`), and all other fields as
they are (`attribute?_ofRaw`).  So the children of an indexed node under a field are those of the object that are found
with its name (`childField_of_node?`), and an attribute is read off the object itself, as long as no children stand under
its name.  Names never stand for children, so an indexed node has the name of its object (`name?_of_node?`); what it
refers to is the integer that the object has for it (`reference?_of_node?`).
-/
import SolidityNav.Proofs.Index.Building
import SolidityNav.Proofs.Table

namespace SolidityNav

set_option autoImplicit false

namespace Ast.Node

/-! ## Children by field -/

/-- Under a field are the ids of the children that are found with its name, in their order. -/
theorem find?_groupByField (children : List (String × RawNode)) (name : String) :
    Table.find? name (groupByField children) =
      if name ∈ children.map Prod.fst then some ((children.filter (·.1 = name)).map fun child => child.2.id)
      else none := by
  have gathered : Table.find? name (groupByField children) = _ :=
    Table.find?_foldl_gather (fun ids (child : RawNode) => ids ++ [child.id]) [] children [] name
  have appended (found : List RawNode) : found.foldl (fun ids child => ids ++ [child.id]) [] = found.map RawNode.id := by
    rw [List.foldl_append_eq_append, List.nil_append]
    exact List.map_eq_flatMap.symm
  rw [gathered, Table.find?, Option.getD_none, appended, List.map_map]
  rfl

/-- The ids that are grouped under a field are those of the children found with its name. -/
theorem getD_find?_groupByField (children : List (String × RawNode)) (name : String) :
    (Table.find? name (groupByField children)).getD [] =
      (children.filter (·.1 = name)).map fun child => child.2.id := by
  rw [find?_groupByField]
  split
  · rfl
  · rename_i missing
    rw [Table.filter_eq_nil_iff.mpr missing]
    rfl

/-! ## Attributes -/

theorem isAttribute_groupByField {children : List (String × RawNode)} {name : String} :
    isAttribute (groupByField children) name = true ↔
      (name ∈ scalarFields ∨ name ∉ children.map Prod.fst) ∧ name ∉ ["id", "src", "nodeType"] := by
  have held : Table.contains (groupByField children) name = decide (name ∈ children.map Prod.fst) := by
    rw [Table.contains, find?_groupByField]
    by_cases found : name ∈ children.map Prod.fst <;> simp [found]
  simp only [isAttribute, held, Bool.and_eq_true, Bool.or_eq_true, Bool.not_eq_true', decide_eq_true_eq,
    decide_eq_false_iff_not]

/-- **An attribute is the field of the object**, and a field of children is no attribute. -/
theorem attribute?_ofRaw (raw : RawNode) (src : Span) (parent : Option NodeId) (children : List (String × RawNode))
    (name : String) :
    (ofRaw raw src parent children).attribute? name =
      if (name ∈ scalarFields ∨ name ∉ children.map Prod.fst) ∧ name ∉ ["id", "src", "nodeType"] then raw.field? name
      else none := by
  have read := Table.find?_filter (isAttribute (groupByField children)) name raw.fields
  simp only [isAttribute_groupByField] at read
  exact read

end Ast.Node

namespace Ast.RawNode

/-- The declaration a node object refers to: the integer under its field for it.  A field of children is none, also
when it is written a second time with an integer. -/
def reference? (raw : RawNode) : Option NodeId :=
  if "referencedDeclaration" ∈ raw.children.map Prod.fst then none
  else (raw.field? "referencedDeclaration").bind Json.int64?

/-- In an object that has each field once, a node refers to whatever integer stands in the field for it. -/
theorem reference?_of_nodup {raw : RawNode} (distinct : (raw.fields.map Prod.fst).Nodup) :
    raw.reference? = (raw.field? "referencedDeclaration").bind Json.int64? := by
  rw [reference?]
  split
  · rename_i holds
    obtain ⟨⟨_, child⟩, member, rfl⟩ := List.mem_map.mp holds
    obtain ⟨value, inFields, -, inHeld⟩ := mem_children.mp member
    have stored : raw.field? "referencedDeclaration" = some value := (Table.find?_eq_some_iff distinct).mpr inFields
    rw [stored]
    -- A value that holds a node is an object or a list, and neither is an integer.
    cases value <;> first | rfl | simp [held] at inHeld
  · rfl

end Ast.RawNode

namespace Index

open SolidityNav.Ast (Node NodeId RawNode)
open SolidityNav.Ast.RawNode (Visit)

theorem attribute?_of_node? {visit : Visit} {node : Node} (indexed : visit.node? = some node) (name : String) :
    node.attribute? name =
      if (name ∈ Ast.scalarFields ∨ name ∉ visit.raw.children.map Prod.fst) ∧ name ∉ ["id", "src", "nodeType"] then
        visit.raw.field? name
      else none := by
  obtain ⟨src, -, rfl⟩ := Option.map_eq_some_iff.mp indexed
  rw [← Node.attribute?_ofRaw visit.raw src (visit.parent?.map RawNode.id)]
  unfold stamped
  dsimp only
  split <;> rfl

theorem childFields_of_node? {visit : Visit} {node : Node} (indexed : visit.node? = some node) :
    node.childFields = Node.groupByField visit.raw.children := by
  obtain ⟨src, -, rfl⟩ := Option.map_eq_some_iff.mp indexed
  unfold stamped
  dsimp only
  split <;> rfl

theorem childField_of_node? {visit : Visit} {node : Node} (indexed : visit.node? = some node) (name : String) :
    node.childField name = (visit.raw.children.filter (·.1 = name)).map fun child => child.2.id := by
  rw [Node.childField, childFields_of_node? indexed, Node.getD_find?_groupByField]

theorem name?_of_node? {visit : Visit} {node : Node} (indexed : visit.node? = some node) :
    node.name? = visit.raw.name? := by
  have kept : ("name" ∈ Ast.scalarFields ∨ "name" ∉ visit.raw.children.map Prod.fst) ∧
      "name" ∉ ["id", "src", "nodeType"] := ⟨Or.inl (by decide), by decide⟩
  rw [Node.name?, attribute?_of_node? indexed, if_pos kept, RawNode.name?]

theorem reference?_of_node? {visit : Visit} {node : Node} (indexed : visit.node? = some node) :
    node.reference? = visit.raw.reference? := by
  have nested : "referencedDeclaration" ∉ Ast.scalarFields := by decide
  have plain : "referencedDeclaration" ∉ ["id", "src", "nodeType"] := by decide
  rw [Node.reference?, attribute?_of_node? indexed, RawNode.reference?]
  by_cases children : "referencedDeclaration" ∈ visit.raw.children.map Prod.fst
  · rw [if_pos children, if_neg fun both => both.1.elim nested (absurd children)]
    rfl
  · rw [if_neg children, if_pos ⟨Or.inr children, plain⟩]
    rfl

end Index

end SolidityNav
