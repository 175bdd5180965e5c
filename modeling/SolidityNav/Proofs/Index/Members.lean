/-
# Proofs.Index.Members -- enums, structs, arrays and byte strings

What a node declares on leaving is read off its object and the object right above it.  The index has both as nodes, and the
tables say the same of these: arrays and byte strings are the variables whose nodes are the parents of certain others
(`MarkedBy`), and the members of an enum or a struct are the named nodes that the index lists as its members
(`memberNames_eq`).

`Tabulates root index` puts this together with the order of the tables, and `build_tabulates` says so of every index that
is built.
-/
import SolidityNav.Proofs.Index.Below
import SolidityNav.Proofs.Index.Symbols

namespace SolidityNav

set_option autoImplicit false

open SolidityNav.Ast (Node NodeType RawNode)
open SolidityNav.Ast.RawNode (Visit)

/-- The member names of the nodes of a kind that have a name, under that name and in postorder. -/
def Ast.RawNode.memberLists (root : RawNode) (kind : NodeType) : List (String × List String) :=
  root.postorder.filterMap fun raw =>
    if raw.nodeType = kind then raw.name?.map fun name => (name, Index.memberNames raw) else none

namespace Index

/-! ## Marked variables -/

def variableAbove? (index : Index) (node : Node) : Option String := do
  let above ← index.node? (← node.parent)
  if above.nodeType = .variableDeclaration then above.name? else none

theorem variableAbove?_eq_some_iff {index : Index} {node : Node} {name : String} :
    index.variableAbove? node = some name ↔ ∃ parent above, node.parent = some parent ∧
      index.node? parent = some above ∧ above.nodeType = .variableDeclaration ∧ above.name? = some name := by
  simp only [variableAbove?, Option.bind_eq_bind, Option.bind_eq_some_iff, Option.ite_none_right_eq_some]
  constructor
  · rintro ⟨parent, isParent, above, stored, kind, called⟩
    exact ⟨parent, above, isParent, stored, kind, called⟩
  · rintro ⟨parent, above, isParent, stored, kind, called⟩
    exact ⟨parent, isParent, above, stored, kind, called⟩

/-- The names are those of the variables right above the nodes that mark them. -/
structure MarkedBy (root : RawNode) (index : Index) (marks : Node → Bool) (names : Names) : Prop where
  /-- A name is listed when a variable with this name is the parent of a node that marks it. -/
  mem_iff : ∀ name, name ∈ names ↔ ∃ id node parent above, index.node? id = some node ∧ marks node = true ∧
    node.parent = some parent ∧ index.node? parent = some above ∧ above.nodeType = .variableDeclaration ∧
    above.name? = some name
  /-- Each name stands where the first node that marks it is in postorder. -/
  ordered : names = (root.postorder.filterMap fun raw => (index.node? raw.id).bind fun node =>
    if marks node then index.variableAbove? node else none).eraseDups

section Filable

variable {root : RawNode} (filable : root.Filable)
include filable

/-- The variable right above a node of the index is the one that the object right above declares. -/
theorem variableAbove?_index {visit : Visit} (visited : visit ∈ root.visits []) {node : Node}
    (indexed : visit.node? = some node) : root.index.variableAbove? node = declaredVariable? visit.parent? := by
  obtain ⟨-, -, -, parent, -⟩ := fields_of_node? indexed
  rw [variableAbove?, parent]
  rcases RawNode.mem_visits_cases visited with rfl | ⟨above, rest, path, aboveVisited, -⟩
  · rfl
  · obtain ⟨aboveNode, aboveIndexed⟩ := exists_node_of_mem_visits filable aboveVisited
    obtain ⟨-, kind, -, -, -⟩ := fields_of_node? aboveIndexed
    have stored := (node?_index_eq_some_iff filable).mpr ⟨_, aboveVisited, aboveIndexed, rfl⟩
    have isParent : visit.parent? = some above := by rw [Visit.parent?, path]; rfl
    simp [isParent, stored, kind, name?_of_node? aboveIndexed, declaredVariable?]

/-- The variables above the objects that mark them are those above the nodes of the index that do. -/
theorem markedBy_index (marks : Node → Bool) (marksRaw : RawNode → Bool)
    (agree : ∀ visit node, Visit.node? visit = some node → marks node = marksRaw visit.raw) :
    MarkedBy root root.index marks ((root.visits []).filterMap (Visit.marked? marksRaw)).eraseDups where
  mem_iff := by
    intro name
    rw [List.mem_eraseDups, List.mem_filterMap]
    constructor
    · rintro ⟨visit, visited, marked⟩
      obtain ⟨node, indexed⟩ := exists_node_of_mem_visits filable visited
      rw [Visit.marked?, ← agree visit node indexed, ← variableAbove?_index filable visited indexed,
        Option.ite_none_right_eq_some] at marked
      obtain ⟨parent, above, rest⟩ := variableAbove?_eq_some_iff.mp marked.2
      exact ⟨visit.raw.id, node, parent, above, (node?_index_eq_some_iff filable).mpr ⟨visit, visited, indexed, rfl⟩,
        marked.1, rest⟩
    · rintro ⟨id, node, parent, above, stored, marked, rest⟩
      -- The node comes from a visit, and what is right above it there is its parent in the index.
      obtain ⟨visit, visited, indexed, -⟩ := (node?_index_eq_some_iff filable).mp stored
      refine ⟨visit, visited, ?_⟩
      rw [Visit.marked?, ← agree visit node indexed, if_pos marked, ← variableAbove?_index filable visited indexed]
      exact variableAbove?_eq_some_iff.mpr ⟨parent, above, rest⟩
  ordered := by
    rw [← root.map_raw_visits [], List.filterMap_map]
    congr 1
    refine List.filterMap_congr fun visit visited => ?_
    obtain ⟨node, indexed⟩ := exists_node_of_mem_visits filable visited
    have stored := (node?_index_eq_some_iff filable).mpr ⟨visit, visited, indexed, rfl⟩
    simp only [Function.comp_apply, stored, Option.bind_some]
    rw [agree visit node indexed, variableAbove?_index filable visited indexed, Visit.marked?]

/-! ## Members -/

/-- **The members that an object lists are those of the index**: the named ones among its nodes, in their order. -/
theorem memberNames_eq {visit : Visit} (visited : visit ∈ root.visits []) {node : Node}
    (indexed : visit.node? = some node) (distinct : (visit.raw.fields.map Prod.fst).Nodup) {items : List Json}
    (list : visit.raw.field? "members" = some (.array items)) :
    memberNames visit.raw = (node.members.filterMap root.index.node?).filterMap Node.name? := by
  have names := map_name?_childField_of_array filable visited indexed distinct (by decide) list
  have named := congrArg (List.filterMap fun found : Option (Option String) => found.bind id) names
  rw [List.filterMap_map, List.filterMap_map] at named
  rw [memberNames, List.filterMap_filterMap]
  simp only [Function.comp_def, Option.bind_map] at named
  exact named.symm

theorem isSome_node?_of_mem_members {visit : Visit} (visited : visit ∈ root.visits []) {node : Node}
    (indexed : visit.node? = some node) : ∀ id ∈ node.members, (root.index.node? id).isSome = true := by
  intro id member
  rw [Node.members, childField_of_node? indexed] at member
  obtain ⟨child, found, rfl⟩ := List.mem_map.mp member
  obtain ⟨below, stored, -⟩ := exists_node_below filable visited (List.mem_of_mem_filter found)
  exact Option.isSome_iff_exists.mpr ⟨below, stored⟩

end Filable

theorem memberNames_of_unlisted {raw : RawNode} (unlisted : ∀ items, raw.field? "members" ≠ some (.array items)) :
    memberNames raw = [] := by
  rw [memberNames, RawNode.childList]
  split
  · rename_i items list
    exact absurd list (unlisted items)
  · rfl

/-! ## The tables of a built index -/

/-- The tables of enums, structs, arrays and byte strings are those of the nodes of the index. -/
structure Tabulates (root : RawNode) (index : Index) : Prop where
  arrays : MarkedBy root index (fun node => node.nodeType = .arrayTypeName) index.symbols.arrays
  bytes : MarkedBy root index (fun node => node.name? = some "bytes") index.symbols.bytes
  enums : Table.Collects (root.memberLists .enumDefinition) index.symbols.enums
  structs : Table.Collects (root.memberLists .structDefinition) index.symbols.structs
  /-- The member names of an object with a list of members are those of the members of its node.  The object has each
  field once, as one made of a map does. -/
  members : ∀ raw ∈ root.postorder, ∃ node, index.node? raw.id = some node ∧ node.nodeType = raw.nodeType ∧
    node.name? = raw.name? ∧
    ∀ items, raw.field? "members" = some (.array items) → (raw.fields.map Prod.fst).Nodup →
      (∀ id ∈ node.members, (index.node? id).isSome = true) ∧
      memberNames raw = (node.members.filterMap index.node?).filterMap Node.name?
  /-- Without a list there are none. -/
  unlisted : ∀ raw ∈ root.postorder, (∀ items, raw.field? "members" ≠ some (.array items)) → memberNames raw = []

theorem tabulates_index {root : RawNode} (filable : root.Filable) : Tabulates root root.index where
  arrays := by
    have marked := markedBy_index filable (fun node => node.nodeType = .arrayTypeName) marksArray
      fun visit node indexed => by rw [(fields_of_node? indexed).2.1]; rfl
    rw [symbols_index filable]
    rwa [← Names.addAll_nil] at marked
  bytes := by
    have marked := markedBy_index filable (fun node => node.name? = some "bytes") marksBytes
      fun visit node indexed => by rw [name?_of_node? indexed]; rfl
    rw [symbols_index filable]
    rwa [← Names.addAll_nil] at marked
  enums := by
    rw [symbols_index filable, RawNode.memberLists, ← root.map_raw_visits [], List.filterMap_map]
    exact Table.collects_insertAll _
  structs := by
    rw [symbols_index filable, RawNode.memberLists, ← root.map_raw_visits [], List.filterMap_map]
    exact Table.collects_insertAll _
  members := by
    intro raw member
    rw [← root.map_raw_visits []] at member
    obtain ⟨visit, visited, rfl⟩ := List.mem_map.mp member
    obtain ⟨node, indexed⟩ := exists_node_of_mem_visits filable visited
    obtain ⟨-, kind, -, -, -⟩ := fields_of_node? indexed
    refine ⟨node, (node?_index_eq_some_iff filable).mpr ⟨visit, visited, indexed, rfl⟩, kind, name?_of_node? indexed, ?_⟩
    intro items list distinct
    exact ⟨isSome_node?_of_mem_members filable visited indexed,
      memberNames_eq filable visited indexed distinct list⟩
  unlisted _ _ := memberNames_of_unlisted

/-- **The tables say of the index what its nodes say**: arrays and byte strings are the variables whose nodes are the
parents of the nodes that mark them, and enums and structs have the members of their last definitions. -/
theorem build_tabulates {ast : Json} {index : Index} (built : build ast = .ok index) :
    ∃ root, RawNode.ofJson? ast = some root ∧ Tabulates root index := by
  obtain ⟨root, read, filable, rfl⟩ := build_eq_ok_iff.mp built
  exact ⟨root, read, tabulates_index filable⟩

/-! ## An enum that is defined twice -/

/-- An enum, a struct with an item among its members that is no node, an array of byte strings and an array without a name,
then a byte string, and another enum with the name of the first. -/
def redefinedAst : Json :=
  .object [
    ("id", .int 30), ("nodeType", .string "SourceUnit"), ("src", .string "0:90:0"),
    ("nodes", .array [
      .object [
        ("id", .int 3), ("nodeType", .string "EnumDefinition"), ("src", .string "0:9:0"), ("name", .string "E"),
        ("members", .array [
          .object [("id", .int 1), ("nodeType", .string "EnumValue"), ("src", .string "5:1:0"), ("name", .string "A")]])],
      .object [
        ("id", .int 9), ("nodeType", .string "StructDefinition"), ("src", .string "10:40:0"), ("name", .string "S"),
        ("members", .array [
          .int 4,
          .object [
            ("id", .int 5), ("nodeType", .string "VariableDeclaration"), ("src", .string "20:9:0"),
            ("name", .string "ids"),
            ("typeName", .object [
              ("id", .int 4), ("nodeType", .string "ArrayTypeName"), ("src", .string "20:7:0"),
              ("baseType", .object [
                ("id", .int 6), ("nodeType", .string "ElementaryTypeName"), ("src", .string "20:5:0"),
                ("name", .string "bytes")])])],
          .object [
            ("id", .int 8), ("nodeType", .string "VariableDeclaration"), ("src", .string "30:9:0"),
            ("typeName", .object [
              ("id", .int 7), ("nodeType", .string "ArrayTypeName"), ("src", .string "30:7:0")])]])],
      .object [
        ("id", .int 11), ("nodeType", .string "VariableDeclaration"), ("src", .string "60:9:0"), ("name", .string "data"),
        ("typeName", .object [
          ("id", .int 10), ("nodeType", .string "ElementaryTypeName"), ("src", .string "60:5:0"),
          ("name", .string "bytes")])],
      .object [
        ("id", .int 13), ("nodeType", .string "EnumDefinition"), ("src", .string "70:9:0"), ("name", .string "E"),
        ("members", .array [
          .object [
            ("id", .int 12), ("nodeType", .string "EnumValue"), ("src", .string "75:1:0"), ("name", .string "B")]])]])]

/-- The enum has the members of its second definition, and the struct has its named one. -/
theorem build_tabulates_redefined :
    ∃ index root struct, build redefinedAst = .ok index ∧ RawNode.ofJson? redefinedAst = some root ∧
      Tabulates root index ∧
      index.symbols.enums = [("E", ["B"])] ∧ index.symbols.structs = [("S", ["ids"])] ∧
      index.symbols.arrays = ["ids"] ∧ index.symbols.bytes = ["data"] ∧
      struct ∈ root.postorder ∧ struct.id = 9 ∧ memberNames struct = ["ids"] ∧
      ∃ node, index.node? 9 = some node ∧ node.members = [5, 8] ∧
        memberNames struct = (node.members.filterMap index.node?).filterMap Node.name? := by
  obtain ⟨index, built⟩ : ∃ index, build redefinedAst = .ok index := exists_of_isOk (by decide +kernel)
  obtain ⟨root, read, tabulated⟩ := build_tabulates built
  have computed : ∀ index ∈ (build redefinedAst).toOption,
      index.symbols.enums = [("E", ["B"])] ∧ index.symbols.structs = [("S", ["ids"])] ∧
      index.symbols.arrays = ["ids"] ∧ index.symbols.bytes = ["data"] ∧
      ∀ node ∈ index.node? 9, node.members = [5, 8] := by
    decide +kernel
  have shape : ∀ root ∈ RawNode.ofJson? redefinedAst, ∃ struct ∈ root.postorder, struct.id = 9 ∧
      (struct.fields.map Prod.fst).Nodup ∧ ((struct.field? "members").bind Json.items?).isSome = true ∧
      memberNames struct = ["ids"] := by
    decide +kernel
  rw [built] at computed
  obtain ⟨enums, structs, arrays, bytes, listed⟩ := computed index rfl
  obtain ⟨struct, member, id, distinct, hasList, names⟩ := shape root read
  obtain ⟨node, stored, -, -, agrees⟩ := tabulated.members struct member
  obtain ⟨items, isList⟩ := Option.isSome_iff_exists.mp hasList
  obtain ⟨value, list, isItems⟩ := Option.bind_eq_some_iff.mp isList
  have array : struct.field? "members" = some (.array items) := by
    cases value <;> cases isItems
    exact list
  rw [id] at stored
  exact ⟨index, root, struct, built, read, tabulated, enums, structs, arrays, bytes, member, id, names, node, stored,
    listed node stored, (agrees items array distinct).2⟩

end Index

end SolidityNav
