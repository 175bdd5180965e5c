/-
# Proofs.Index.Fields -- every field of a node object is kept in one place

Three parts of the indexing decide where a field of a node object goes: the search for children passes over the scalar
fields, the children that are found are grouped by field, and what is left over becomes an attribute.  Taken together they
lose nothing and keep nothing twice.  A field holds children, and then their ids stand in their order under its name; or it
is an attribute, and then its value is kept as it is.

It rests on what stands below a node object under one name (`RawNode.under`): the children that are found with that name
are those and no others (`filter_children`).  This takes an object that has each field once, as one made of a map does.

`Partitions raw node` lists what follows for an indexed node, and `partitions_stamped` says so of every node that a walk
files.
-/
import SolidityNav.Proofs.Index.Arena
import SolidityNav.Proofs.Index.Attributes

namespace SolidityNav

set_option autoImplicit false

namespace Ast

namespace RawNode

/-! ## Children under one name -/

def under (raw : RawNode) (name : String) : List RawNode :=
  if name ∈ scalarFields then [] else ((raw.field? name).map held).getD []

theorem under_of_scalar {name : String} (scalar : name ∈ scalarFields) (raw : RawNode) : raw.under name = [] :=
  if_pos scalar

theorem under_of_field? {raw : RawNode} {name : String} {value : Json} (free : name ∉ scalarFields)
    (found : raw.field? name = some value) : raw.under name = held value := by
  rw [under, if_neg free, found]
  rfl

/-- What a field holds is the node that its object is, or the nodes in its list. -/
theorem held_eq_child_or_list {raw : RawNode} {name : String} {value : Json} (found : raw.field? name = some value) :
    held value = (raw.child? name).toList ++ raw.childList name := by
  rw [child?, childList, found]
  cases value <;> simp [held, ofJson?, Json.fields?]

/-- The children that fields hold, kept under a name that occurs once at most. -/
theorem filter_flatMap_held {fields : List (String × Json)} (distinct : (fields.map Prod.fst).Nodup) (name : String)
    (free : name ∉ scalarFields) :
    ((fields.flatMap fun (field, value) =>
        if field ∈ scalarFields then [] else (held value).map fun child => (field, child)).filter (·.1 = name)) =
      (((Table.find? name fields).map held).getD []).map fun child => (name, child) := by
  induction fields with
  | nil => rfl
  | cons first rest ih =>
      obtain ⟨field, value⟩ := first
      obtain ⟨fresh, distinctRest⟩ := List.nodup_cons.mp distinct
      rw [List.flatMap_cons, List.filter_append, ih distinctRest, Table.find?]
      by_cases here : field = name
      · subst here
        have missing : Table.find? field rest = none := Table.find?_eq_none_iff.mpr fresh
        simp [free, missing]
      · have others : ((if field ∈ scalarFields then [] else (held value).map fun child => (field, child)).filter
            (·.1 = name)) = [] := by
          rw [List.filter_eq_nil_iff]
          intro child member
          split at member
          · cases member
          · obtain ⟨_, -, rfl⟩ := List.mem_map.mp member
            simpa using here
        simp [here, others]

/-- **The children that are found with a name are those under it**, in their order. -/
theorem filter_children {raw : RawNode} (distinct : (raw.fields.map Prod.fst).Nodup) (name : String) :
    raw.children.filter (·.1 = name) = (raw.under name).map fun child => (name, child) := by
  by_cases scalar : name ∈ scalarFields
  · rw [under_of_scalar scalar, List.map_nil, List.filter_eq_nil_iff]
    intro child member same
    obtain ⟨_, -, free, -⟩ := mem_children.mp member
    exact free (by simpa using of_decide_eq_true same ▸ scalar)
  · rw [under, if_neg scalar]
    exact filter_flatMap_held distinct name scalar

/-- Some child is found with a name when the children under it are not none. -/
theorem mem_map_fst_children {raw : RawNode} (distinct : (raw.fields.map Prod.fst).Nodup) {name : String} :
    name ∈ raw.children.map Prod.fst ↔ raw.under name ≠ [] := by
  have found := congrArg List.isEmpty (filter_children distinct name)
  rw [List.isEmpty_map, Bool.eq_iff_iff, List.isEmpty_iff, List.isEmpty_iff, List.filter_eq_nil_iff] at found
  rw [ne_eq, ← found]
  simp

end RawNode

/-! ## The two places of a field -/

/-- The fields that make an object a node; an indexed node has them read. -/
def mandatoryFields : List String :=
  ["id", "src", "nodeType"]

namespace Node

theorem childField_ofRaw {raw : RawNode} (distinct : (raw.fields.map Prod.fst).Nodup) (src : Span)
    (parent : Option NodeId) (name : String) :
    (ofRaw raw src parent raw.children).childField name = (raw.under name).map RawNode.id := by
  have grouped : (ofRaw raw src parent raw.children).childField name =
      (raw.children.filter (·.1 = name)).map fun child => child.2.id :=
    getD_find?_groupByField raw.children name
  rw [grouped, RawNode.filter_children distinct, List.map_map]
  rfl

/-- A field without children is an attribute. -/
theorem attribute?_of_childless {raw : RawNode} (distinct : (raw.fields.map Prod.fst).Nodup) (src : Span)
    (parent : Option NodeId) {name : String} (childless : raw.under name = []) (free : name ∉ mandatoryFields) :
    (ofRaw raw src parent raw.children).attribute? name = raw.field? name := by
  have kept : name ∉ raw.children.map Prod.fst := by simp [RawNode.mem_map_fst_children distinct, childless]
  rw [attribute?_ofRaw, if_pos ⟨Or.inr kept, free⟩]

/-- A field with children is not. -/
theorem attribute?_of_children {raw : RawNode} (distinct : (raw.fields.map Prod.fst).Nodup) (src : Span)
    (parent : Option NodeId) {name : String} (children : raw.under name ≠ []) :
    (ofRaw raw src parent raw.children).attribute? name = none := by
  have found : name ∈ raw.children.map Prod.fst := (RawNode.mem_map_fst_children distinct).mpr children
  have nested : name ∉ scalarFields := fun scalar => children (RawNode.under_of_scalar scalar raw)
  rw [attribute?_ofRaw, if_neg fun both => both.1.elim nested (absurd found)]

theorem attribute?_of_mandatory (raw : RawNode) (src : Span) (parent : Option NodeId) {name : String}
    (mandatory : name ∈ mandatoryFields) : (ofRaw raw src parent raw.children).attribute? name = none := by
  rw [attribute?_ofRaw, if_neg fun both => both.2 mandatory]

/-- An indexed node keeps each field of its object in one place. -/
structure Partitions (raw : RawNode) (node : Node) : Prop where
  /-- A field is an attribute with its value, or a field of children. -/
  placed : ∀ name value, (name, value) ∈ raw.fields → name ∉ mandatoryFields →
    node.attribute? name = some value ∧ node.childField name = [] ∨
    name ∉ node.attributes.keys ∧ node.childField name ≠ []
  /-- A field of children has the id of the node that its object is, or the ids of the nodes in its list. -/
  children : ∀ name value, (name, value) ∈ raw.fields → node.childField name ≠ [] →
    (∃ fields child, value = .object fields ∧ raw.child? name = some child ∧ node.childField name = [child.id]) ∨
    ∃ items, value = .array items ∧ node.childField name = (raw.childList name).map RawNode.id
  /-- The fields of children are those that hold a node and may do so. -/
  nested : ∀ name, node.childField name ≠ [] ↔
    name ∉ scalarFields ∧ (raw.child? name ≠ none ∨ raw.childList name ≠ [])
  /-- A scalar field is an attribute, whatever it holds. -/
  scalar : ∀ name ∈ scalarFields, name ∉ mandatoryFields → node.attribute? name = raw.field? name
  /-- What makes the object a node is in neither place. -/
  mandatory : ∀ name ∈ mandatoryFields, node.attribute? name = none ∧ node.childField name = []
  /-- The attributes keep the order of the fields. -/
  ordered : node.attributes.Sublist raw.fields
  /-- The fields of children in the order of the fields make up the children. -/
  concatenated : (raw.fields.flatMap fun field => node.childField field.1) = node.children
  named : node.name? = raw.name?
  /-- The node refers to the integer under its field for it. -/
  refers : node.reference? = (raw.field? "referencedDeclaration").bind Json.int64?
  /-- The type is that of the object, unless a node stands in its place. -/
  typed : raw.child? "typeDescriptions" = none → node.typeString? = raw.typeString?

section Distinct

variable {raw : RawNode} (distinct : (raw.fields.map Prod.fst).Nodup) (src : Span) (parent : Option NodeId)
include distinct

theorem childField_ne_nil_iff {name : String} :
    (ofRaw raw src parent raw.children).childField name ≠ [] ↔
      name ∉ scalarFields ∧ (raw.child? name ≠ none ∨ raw.childList name ≠ []) := by
  rw [childField_ofRaw distinct, ne_eq, List.map_eq_nil_iff]
  by_cases scalar : name ∈ scalarFields
  · simp [RawNode.under_of_scalar scalar, scalar]
  · cases found : raw.field? name with
    | none => simp [RawNode.under, RawNode.child?, RawNode.childList, found]
    | some value =>
        rw [RawNode.under_of_field? scalar found, RawNode.held_eq_child_or_list found, List.append_eq_nil_iff,
          Option.toList_eq_nil_iff]
        simp only [scalar, not_false_eq_true, true_and, ne_eq]
        exact Classical.not_and_iff_not_or_not

theorem children_of_field {name : String} {value : Json} (member : (name, value) ∈ raw.fields)
    (holds : (ofRaw raw src parent raw.children).childField name ≠ []) :
    (∃ fields child, value = .object fields ∧ raw.child? name = some child ∧
      (ofRaw raw src parent raw.children).childField name = [child.id]) ∨
    ∃ items, value = .array items ∧
      (ofRaw raw src parent raw.children).childField name = (raw.childList name).map RawNode.id := by
  have found : raw.field? name = some value := (Table.find?_eq_some_iff distinct).mpr member
  have free : name ∉ scalarFields := ((childField_ne_nil_iff distinct src parent).mp holds).1
  rw [childField_ofRaw distinct, RawNode.under_of_field? free found] at holds ⊢
  cases value with
  | object fields =>
      left
      cases read : RawNode.ofFields? fields with
      | none => simp [RawNode.held, read] at holds
      | some child => exact ⟨fields, child, rfl, by rw [RawNode.child?, found]; exact read, by simp [RawNode.held, read]⟩
  | array items =>
      right
      exact ⟨items, rfl, by rw [RawNode.childList, found, RawNode.held]⟩
  | _ => simp [RawNode.held] at holds

/-- Read in the order of the fields, the fields of children give all children. -/
theorem flatMap_childField :
    (raw.fields.flatMap fun field => (ofRaw raw src parent raw.children).childField field.1) =
      raw.children.map fun child => child.2.id := by
  simp only [childField_ofRaw distinct]
  rw [RawNode.children, List.map_flatMap]
  refine List.flatMap_congr fun field member => ?_
  obtain ⟨name, value⟩ := field
  by_cases scalar : name ∈ scalarFields
  · simp [RawNode.under_of_scalar scalar, scalar]
  · have found : raw.field? name = some value := (Table.find?_eq_some_iff distinct).mpr member
    simp [RawNode.under_of_field? scalar found, scalar]

theorem reference?_ofRaw :
    (ofRaw raw src parent raw.children).reference? = (raw.field? "referencedDeclaration").bind Json.int64? := by
  rw [← RawNode.reference?_of_nodup distinct, reference?, RawNode.reference?]
  by_cases childless : raw.under "referencedDeclaration" = []
  · rw [attribute?_of_childless distinct src parent childless (by decide),
      if_neg (by simp [RawNode.mem_map_fst_children distinct, childless])]
    rfl
  · rw [attribute?_of_children distinct src parent childless, if_pos ((RawNode.mem_map_fst_children distinct).mpr childless)]
    rfl

theorem typeString?_ofRaw (typeless : raw.child? "typeDescriptions" = none) :
    (ofRaw raw src parent raw.children).typeString? = raw.typeString? := by
  rw [typeString?, RawNode.typeString?]
  by_cases childless : raw.under "typeDescriptions" = []
  · rw [attribute?_of_childless distinct src parent childless (by decide)]
  · rw [attribute?_of_children distinct src parent childless]
    cases found : raw.field? "typeDescriptions" with
    | none => rfl
    | some value =>
        cases value with
        | object fields =>
            rw [RawNode.child?, found] at typeless
            have read : RawNode.ofFields? fields = none := typeless
            rw [RawNode.under_of_field? (by decide) found, RawNode.held, read] at childless
            exact absurd rfl childless
        -- A list with nodes in it is no attribute, and has no type in the object either.
        | _ => rfl

/-- **The indexed form of a node object keeps each field in one place.** -/
theorem partitions_ofRaw : Partitions raw (ofRaw raw src parent raw.children) where
  placed := by
    intro name value member free
    have found : raw.field? name = some value := (Table.find?_eq_some_iff distinct).mpr member
    by_cases childless : raw.under name = []
    · left
      rw [attribute?_of_childless distinct src parent childless free, found, childField_ofRaw distinct, childless]
      exact ⟨rfl, rfl⟩
    · right
      have absent := attribute?_of_children distinct src parent childless
      rw [childField_ofRaw distinct, ne_eq, List.map_eq_nil_iff]
      exact ⟨Table.find?_eq_none_iff.mp absent, childless⟩
  children _ _ member := children_of_field distinct src parent member
  nested _ := childField_ne_nil_iff distinct src parent
  scalar _ scalar free := attribute?_of_childless distinct src parent (RawNode.under_of_scalar scalar raw) free
  mandatory := by
    intro name mandatory
    have scalar : name ∈ scalarFields := List.mem_of_mem_take (i := 3) mandatory
    rw [attribute?_of_mandatory raw src parent mandatory, childField_ofRaw distinct, RawNode.under_of_scalar scalar]
    exact ⟨rfl, rfl⟩
  ordered := List.filter_sublist
  concatenated := flatMap_childField distinct src parent
  named := by
    have childless : raw.under "name" = [] := RawNode.under_of_scalar (by decide) raw
    rw [name?, attribute?_of_childless distinct src parent childless (by decide), RawNode.name?]
  refers := reference?_ofRaw distinct src parent
  typed := typeString?_ofRaw distinct src parent

end Distinct

/-- Stamps are kept beside the fields. -/
theorem Partitions.stamp {raw : RawNode} {node : Node} (kept : Partitions raw node) (contract callable : Option String) :
    Partitions raw { node with contract := contract, callable := callable } :=
  ⟨kept.placed, kept.children, kept.nested, kept.scalar, kept.mandatory, kept.ordered, kept.concatenated, kept.named,
    kept.refers, kept.typed⟩

end Node

end Ast

namespace Index

open SolidityNav.Ast (Node NodeId RawNode)
open SolidityNav.Ast.RawNode (Visit)

/-! ## Nodes of an index -/

theorem partitions_stamped {raw : RawNode} (distinct : (raw.fields.map Prod.fst).Nodup) (src : Span)
    (parent : Option RawNode) (scope : Scope) : Node.Partitions raw (stamped raw src parent raw.children scope) := by
  have kept := Node.partitions_ofRaw distinct src (parent.map RawNode.id)
  unfold stamped
  dsimp only
  split
  · exact kept.stamp scope.contract scope.callable
  · exact kept

/-- **Whatever node a walk files keeps each field of its object in one place**, wherever the node stands; so do all nodes of
a built index. -/
theorem fields_partitioned :
    (∀ raw : RawNode, (raw.fields.map Prod.fst).Nodup → ∀ src parent scope,
      Node.Partitions raw (stamped raw src parent raw.children scope)) ∧
    ∀ ast index, build ast = .ok index → ∃ root, RawNode.ofJson? ast = some root ∧
      ∀ raw ∈ root.postorder, (raw.fields.map Prod.fst).Nodup →
        ∃ node, index.node? raw.id = some node ∧ Node.Partitions raw node := by
  refine ⟨fun raw distinct src parent scope => partitions_stamped distinct src parent scope, ?_⟩
  intro ast index built
  obtain ⟨root, read, filable, rfl⟩ := build_eq_ok_iff.mp built
  refine ⟨root, read, fun raw member distinct => ?_⟩
  rw [← root.map_raw_visits []] at member
  obtain ⟨visit, visited, rfl⟩ := List.mem_map.mp member
  obtain ⟨node, indexed⟩ := exists_node_of_mem_visits filable visited
  refine ⟨node, (node?_index_eq_some_iff filable).mpr ⟨visit, visited, indexed, rfl⟩, ?_⟩
  obtain ⟨src, -, rfl⟩ := Option.map_eq_some_iff.mp indexed
  exact partitions_stamped distinct src visit.parent? visit.scope

/-- The root of the sample has a list with other items in it and an object that is no node; its identifier has a node under
a scalar field. -/
theorem fields_partitioned_sample :
    ∃ index root unit raw identifier, build sampleAst = .ok index ∧ RawNode.ofJson? sampleAst = some root ∧
      index.node? root.id = some unit ∧ Node.Partitions root unit ∧
      unit.childField "nodes" = [3, 5, 6] ∧ unit.attributes.keys = ["typeDescriptions"] ∧
      raw ∈ root.postorder ∧ index.node? raw.id = some identifier ∧ Node.Partitions raw identifier ∧
      (raw.child? "parent").isSome = true ∧ identifier.attributes.keys = ["name", "referencedDeclaration", "parent"] := by
  obtain ⟨index, built⟩ := sampleAst_build
  obtain ⟨root, read, partitioned⟩ := fields_partitioned.2 sampleAst index built
  have shape : ∀ root ∈ RawNode.ofJson? sampleAst, root.id = 9 ∧ (root.fields.map Prod.fst).Nodup ∧
      ∃ raw ∈ root.postorder, raw.id = 5 ∧ (raw.fields.map Prod.fst).Nodup ∧ (raw.child? "parent").isSome = true := by
    decide +kernel
  have computed : ∀ index ∈ (build sampleAst).toOption,
      (∀ unit ∈ index.node? 9, unit.childField "nodes" = [3, 5, 6] ∧ unit.attributes.keys = ["typeDescriptions"]) ∧
      ∀ identifier ∈ index.node? 5, identifier.attributes.keys = ["name", "referencedDeclaration", "parent"] := by
    decide +kernel
  rw [built] at computed
  obtain ⟨ofUnit, ofIdentifier⟩ := computed index rfl
  obtain ⟨rootId, distinct, raw, member, id, distinctRaw, nested⟩ := shape root read
  obtain ⟨unit, storedUnit, keptUnit⟩ := partitioned root root.self_mem_postorder distinct
  obtain ⟨identifier, stored, kept⟩ := partitioned raw member distinctRaw
  obtain ⟨nodes, attributes⟩ := ofUnit unit (rootId ▸ storedUnit)
  exact ⟨index, root, unit, raw, identifier, built, read, storedUnit, keptUnit, nodes, attributes, member, stored, kept,
    nested, ofIdentifier identifier (id ▸ stored)⟩

end Index

end SolidityNav
