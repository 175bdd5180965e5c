/-
# Proofs.Index.Arena -- the nodes of an index form the tree they came from

An index keeps its nodes by id; parents and children are ids too.  `Faithful root index` says that nothing of the tree
below `root` is lost in this form: there is one node for each structural node, the links are those of the tree, and
every node leads up to the root.  `build_faithful` says so of every index that is built.
-/
import Mathlib.Data.List.Nodup
import Mathlib.Logic.Relation
import SolidityNav.Proofs.Index.Building

namespace SolidityNav

set_option autoImplicit false

open SolidityNav.Ast (Node NodeId RawNode Tree)
open SolidityNav.Ast.RawNode (Visit)

namespace Index

/-! ## Indexed forms -/

/-- What the indexed form of a visited node takes over from the tree. -/
theorem fields_of_node? {visit : Visit} {node : Node} (indexed : visit.node? = some node) :
    node.id = visit.raw.id ∧ node.nodeType = visit.raw.nodeType ∧ visit.raw.span? = some node.src ∧
      node.parent = visit.parent?.map RawNode.id ∧ node.children = visit.raw.children.map fun child => child.2.id := by
  obtain ⟨src, read, rfl⟩ := Option.map_eq_some_iff.mp indexed
  unfold stamped
  dsimp only
  split <;> exact ⟨rfl, rfl, read, rfl, rfl⟩

/-- A node that opens a scope is stamped with the scope inside it, and no other node is stamped. -/
theorem scope_of_node? {visit : Visit} {node : Node} (indexed : visit.node? = some node) :
    node.contract = (if (entering? visit.raw.nodeType).isSome then visit.scope.contract else none) ∧
      node.callable = if (entering? visit.raw.nodeType).isSome then visit.scope.callable else none := by
  obtain ⟨src, -, rfl⟩ := Option.map_eq_some_iff.mp indexed
  unfold stamped
  dsimp only
  by_cases opens : (entering? visit.raw.nodeType).isSome = true <;> simp [Node.ofRaw, opens]

theorem node?_isSome {visit : Visit} (readable : visit.raw.span? ≠ none) : ∃ node, visit.node? = some node := by
  obtain ⟨src, read⟩ := Option.ne_none_iff_exists'.mp readable
  exact ⟨_, by rw [Visit.node?, read]; rfl⟩

/-- What is read off the results of a selection that drops nothing. -/
theorem map_filterMap_of_forall_some {α β γ : Type} (select : α → Option β) (read : β → γ) (view : α → γ)
    (list : List α) (kept : ∀ a ∈ list, ∃ b, select a = some b ∧ read b = view a) :
    (list.filterMap select).map read = list.map view := by
  induction list with
  | nil => rfl
  | cons a rest ih =>
      obtain ⟨b, selected, same⟩ := kept a List.mem_cons_self
      rw [List.filterMap_cons_some selected, List.map_cons, List.map_cons, same,
        ih fun other member => kept other (List.mem_cons_of_mem a member)]

theorem getElem?_ofList_eq_some_iff {entries : List (NodeId × Node)} (distinct : (entries.map Prod.fst).Nodup)
    {id : NodeId} {node : Node} : (Std.ExtTreeMap.ofList entries)[id]? = some node ↔ (id, node) ∈ entries := by
  have apart : entries.Pairwise fun a b => ¬ compare a.1 b.1 = .eq := by
    simpa [List.Nodup, List.pairwise_map] using distinct
  constructor
  · intro found
    by_cases key : id ∈ entries.map Prod.fst
    · obtain ⟨⟨other, held⟩, member, rfl⟩ := List.mem_map.mp key
      have stored := Std.ExtTreeMap.getElem?_ofList_of_mem (k := other) Std.ReflCmp.compare_self apart member
      rw [stored] at found
      cases found
      exact member
    · rw [Std.ExtTreeMap.getElem?_ofList_of_contains_eq_false (by simpa using key)] at found
      cases found
  · intro member
    exact Std.ExtTreeMap.getElem?_ofList_of_mem (k := id) Std.ReflCmp.compare_self apart member

/-! ## The nodes by id -/

section Filable

variable {root : RawNode} (filable : root.Filable)
include filable

theorem exists_node_of_mem_visits {visit : Visit} (member : visit ∈ root.visits []) :
    ∃ node, visit.node? = some node := by
  apply node?_isSome
  apply filable.readable
  exact RawNode.raw_mem_postorder member

/-- What is read off the indexed forms in the order of filing. -/
theorem map_entries {γ : Type} (read : Node → γ) (view : RawNode → γ)
    (agree : ∀ visit node, Visit.node? visit = some node → read node = view visit.raw) :
    (root.entries.map fun entry => read entry.2) = root.postorder.map view := by
  rw [← root.map_raw_visits [], List.map_map]
  apply map_filterMap_of_forall_some
  intro visit member
  obtain ⟨node, indexed⟩ := exists_node_of_mem_visits filable member
  exact ⟨(node.id, node), by rw [indexed]; rfl, agree visit node indexed⟩

theorem map_fst_entries : root.entries.map Prod.fst = root.postorder.map RawNode.id := by
  rw [← map_entries filable Node.id RawNode.id fun _ _ indexed => (fields_of_node? indexed).1]
  refine List.map_congr_left fun entry member => ?_
  obtain ⟨visit, -, selected⟩ := List.mem_filterMap.mp member
  obtain ⟨node, -, rfl⟩ := Option.map_eq_some_iff.mp selected
  rfl

theorem node?_index_eq_some_iff {id : NodeId} {node : Node} :
    root.index.node? id = some node ↔ ∃ visit ∈ root.visits [], visit.node? = some node ∧ visit.raw.id = id := by
  have distinct := filable.distinct
  rw [← map_fst_entries filable] at distinct
  rw [node?, RawNode.nodes_index, getElem?_ofList_eq_some_iff distinct, RawNode.entries, List.mem_filterMap]
  refine exists_congr fun visit => and_congr_right fun _ => ?_
  rw [Option.map_eq_some_iff]
  constructor
  · rintro ⟨_, indexed, same⟩
    cases same
    exact ⟨indexed, (fields_of_node? indexed).1.symm⟩
  · rintro ⟨indexed, rfl⟩
    exact ⟨node, indexed, by rw [(fields_of_node? indexed).1]⟩

theorem keys_index_perm : root.index.nodes.keys.Perm (root.postorder.map RawNode.id) := by
  refine (List.perm_ext_iff_of_nodup Std.ExtTreeMap.nodup_keys filable.distinct).mpr fun id => ?_
  rw [Std.ExtTreeMap.mem_keys, RawNode.nodes_index, Std.ExtTreeMap.mem_ofList, map_fst_entries filable]
  simp

theorem mem_nodes_index {raw : RawNode} (member : raw ∈ root.postorder) : raw.id ∈ root.index.nodes := by
  rw [← Std.ExtTreeMap.mem_keys, (keys_index_perm filable).mem_iff]
  exact List.mem_map_of_mem member

theorem size_index : root.index.size = root.postorder.length := by
  rw [size, ← Std.ExtTreeMap.length_keys, (keys_index_perm filable).length_eq, List.length_map]

/-- The lists of children of all indexed nodes are those of the structural nodes, in another order. -/
theorem children_index_perm :
    (root.index.nodes.toList.flatMap fun entry => entry.2.children).Perm
      (root.postorder.flatMap fun raw => raw.children.map fun child => child.2.id) := by
  have distinct := filable.distinct
  rw [← map_fst_entries filable] at distinct
  have listed : root.index.nodes.toList.Perm root.entries := by
    have apart : (root.index.nodes.toList.map Prod.fst).Nodup := by
      rw [Std.ExtTreeMap.map_fst_toList_eq_keys]
      exact Std.ExtTreeMap.nodup_keys
    refine (List.perm_ext_iff_of_nodup (List.Nodup.of_map Prod.fst apart) (List.Nodup.of_map Prod.fst distinct)).mpr fun entry => ?_
    rw [Std.ExtTreeMap.mem_toList_iff_getElem?_eq_some, RawNode.nodes_index, getElem?_ofList_eq_some_iff distinct]
  have read := map_entries filable Node.children (fun raw => raw.children.map fun child => child.2.id)
    fun _ _ indexed => (fields_of_node? indexed).2.2.2.2
  rw [List.flatMap_def (l := root.postorder), ← read, ← List.flatMap_def]
  exact listed.flatMap_right fun entry => entry.2.children

/-! ## Links -/

theorem eq_of_raw_id_eq {first second : Visit} (inFirst : first ∈ root.visits []) (inSecond : second ∈ root.visits [])
    (same : first.raw.id = second.raw.id) : first = second := by
  have distinct : ((root.visits []).map fun visit => visit.raw.id).Nodup := by
    have ids := filable.distinct
    rwa [← root.map_raw_visits [], List.map_map] at ids
  exact List.inj_on_of_nodup_map distinct inFirst inSecond same

theorem parent_eq_none_iff {visit : Visit} {node : Node} (member : visit ∈ root.visits [])
    (indexed : visit.node? = some node) : node.parent = none ↔ visit.raw.id = root.id := by
  obtain ⟨-, -, -, parent, -⟩ := fields_of_node? indexed
  rw [parent, Option.map_eq_none_iff]
  rcases RawNode.mem_visits_cases member with rfl | ⟨above, rest, path, -, -⟩
  · exact ⟨fun _ => rfl, fun _ => rfl⟩
  · constructor
    · intro alone
      rw [Visit.parent?, path] at alone
      cases alone
    · intro same
      have top := eq_of_raw_id_eq filable member root.root_mem_visits same
      rw [top] at path
      cases path

/-- A node below the root is among the children of the node that it names as its parent. -/
theorem exists_parent {visit : Visit} {node : Node} (member : visit ∈ root.visits [])
    (indexed : visit.node? = some node) (below : visit.raw.id ≠ root.id) :
    ∃ parent above, node.parent = some parent ∧ root.index.node? parent = some above ∧
      visit.raw.id ∈ above.children := by
  rcases RawNode.mem_visits_cases member with rfl | ⟨parent, rest, path, visited, child⟩
  · exact absurd rfl below
  · obtain ⟨above, stored⟩ := exists_node_of_mem_visits filable visited
    obtain ⟨-, -, -, parentId, -⟩ := fields_of_node? indexed
    obtain ⟨-, -, -, -, children⟩ := fields_of_node? stored
    refine ⟨parent.id, above, ?_, (node?_index_eq_some_iff filable).mpr ⟨_, visited, stored, rfl⟩, ?_⟩
    · rw [parentId, Visit.parent?, path]
      rfl
    · obtain ⟨entry, inChildren, same⟩ := List.mem_map.mp child
      rw [children, ← same]
      exact List.mem_map.mpr ⟨entry, inChildren, rfl⟩

/-- Over all lists of children, the id of a node below the root occurs once. -/
theorem count_children_index {visit : Visit} (member : visit ∈ root.visits []) (below : visit.raw.id ≠ root.id) :
    (root.index.nodes.toList.flatMap fun entry => entry.2.children).count visit.raw.id = 1 := by
  rw [(children_index_perm filable).count_eq]
  have all := (root.children_perm_postorder.map RawNode.id).count_eq visit.raw.id
  have once : (root.postorder.map RawNode.id).count visit.raw.id = 1 := by
    apply List.count_eq_one_of_mem filable.distinct
    rw [← root.map_raw_visits [], List.map_map]
    exact List.mem_map_of_mem (f := fun visit : Visit => visit.raw.id) member
  rw [once, List.map_cons, List.count_cons_of_ne (Ne.symm below), List.map_flatMap] at all
  simp only [List.map_map] at all
  exact all

end Filable

def Climbs (index : Index) (id above : NodeId) : Prop :=
  ∃ node, index.node? id = some node ∧ node.parent = some above

theorem climbs_to_root {root : RawNode} (filable : root.Filable) (path : List RawNode) (raw : RawNode)
    (member : (⟨raw, path⟩ : Visit) ∈ root.visits []) :
    Relation.ReflTransGen root.index.Climbs raw.id root.id := by
  induction path generalizing raw with
  | nil =>
      rcases RawNode.mem_visits_cases member with same | ⟨_, _, impossible, -, -⟩
      · cases same
        exact .refl
      · cases impossible
  | cons parent rest ih =>
      obtain ⟨node, indexed⟩ := exists_node_of_mem_visits filable member
      rcases RawNode.mem_visits_cases member with impossible | ⟨_, _, same, visited, -⟩
      · cases impossible
      · cases same
        obtain ⟨-, -, -, parentId, -⟩ := fields_of_node? indexed
        have stored := (node?_index_eq_some_iff filable).mpr ⟨_, member, indexed, rfl⟩
        exact .head ⟨node, stored, parentId⟩ (ih parent visited)

/-! ## The tree is kept -/

/-- The nodes of an index are the structural nodes of `root`, linked as in the tree. -/
structure Faithful (root : RawNode) (index : Index) : Prop where
  /-- The ids are those of the structural nodes, one for each. -/
  keys : index.nodes.keys.Perm (root.postorder.map RawNode.id)
  /-- Each structural node is stored under its id, with its children in their order. -/
  stored : ∀ raw ∈ root.postorder, ∃ node, index.node? raw.id = some node ∧ node.id = raw.id ∧
    node.nodeType = raw.nodeType ∧ raw.span? = some node.src ∧
    node.children = raw.children.map fun child => child.2.id
  rooted : index.root = root.id ∧ index.rootNode?.isSome
  /-- Only the root has no parent. -/
  parentless : ∀ id node, index.node? id = some node → (node.parent = none ↔ id = index.root)
  /-- Any other node occurs once in all lists of children, and that is in the list of its parent. -/
  parented : ∀ id node, index.node? id = some node → id ≠ index.root →
    (index.nodes.toList.flatMap fun entry => entry.2.children).count id = 1 ∧
    ∃ parent above, node.parent = some parent ∧ index.node? parent = some above ∧ id ∈ above.children
  /-- Parents lead up to the root. -/
  climbing : ∀ id node, index.node? id = some node → Relation.ReflTransGen index.Climbs id index.root

theorem faithful_index {root : RawNode} (filable : root.Filable) : root.index.Faithful root where
  keys := keys_index_perm filable
  stored := by
    intro raw member
    rw [← root.map_raw_visits []] at member
    obtain ⟨visit, visited, rfl⟩ := List.mem_map.mp member
    obtain ⟨node, indexed⟩ := exists_node_of_mem_visits filable visited
    obtain ⟨id, kind, src, -, children⟩ := fields_of_node? indexed
    exact ⟨node, (node?_index_eq_some_iff filable).mpr ⟨visit, visited, indexed, rfl⟩, id, kind, src, children⟩
  rooted := by
    obtain ⟨node, indexed⟩ := exists_node_of_mem_visits filable root.root_mem_visits
    have stored := (node?_index_eq_some_iff filable).mpr ⟨_, root.root_mem_visits, indexed, rfl⟩
    exact ⟨rfl, Option.isSome_iff_exists.mpr ⟨node, stored⟩⟩
  parentless := by
    intro id node found
    obtain ⟨visit, visited, indexed, rfl⟩ := (node?_index_eq_some_iff filable).mp found
    exact parent_eq_none_iff filable visited indexed
  parented := by
    intro id node found below
    obtain ⟨visit, visited, indexed, rfl⟩ := (node?_index_eq_some_iff filable).mp found
    exact ⟨count_children_index filable visited below, exists_parent filable visited indexed below⟩
  climbing := by
    intro id node found
    obtain ⟨visit, visited, -, rfl⟩ := (node?_index_eq_some_iff filable).mp found
    exact climbs_to_root filable visit.above visit.raw visited

/-- **A built index keeps the tree of its AST**, and holds as many nodes as its walk has counted. -/
theorem build_faithful {ast : Json} {index : Index} (built : build ast = .ok index) :
    ∃ root tree draft, RawNode.ofJson? ast = some root ∧ Tree.ofJson? ast = some tree ∧
      (tree.walk indexer none {}).run {} = .ok (index.size, draft) ∧ index.Faithful root := by
  obtain ⟨root, read, filable, rfl⟩ := build_eq_ok_iff.mp built
  refine ⟨root, root.tree, root.draft, read, by rw [Tree.ofJson?_eq, read]; rfl, ?_, faithful_index filable⟩
  have clean : RawNode.offender? [] root.postorder = none :=
    RawNode.offender?_eq_none_iff.mpr ⟨filable.readable, filable.distinct, by simp⟩
  rw [walk_indexer_run, clean, size_index filable]

/-- The sample has a list with other items in it, an object that is no node, and a node under a field that holds no
children. -/
theorem build_faithful_sample :
    ∃ index, build sampleAst = .ok index ∧ ∃ root tree draft, RawNode.ofJson? sampleAst = some root ∧
      Tree.ofJson? sampleAst = some tree ∧ (tree.walk indexer none {}).run {} = .ok (index.size, draft) ∧
      index.Faithful root := by
  obtain ⟨index, built⟩ := sampleAst_build
  exact ⟨index, built, build_faithful built⟩

end Index

end SolidityNav
