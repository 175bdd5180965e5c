/-
# Proofs.Index.Merging -- what a merge leaves alone

A merge takes in the nodes of another index and nothing else: what is filed by offset stays as it was, and so does every
node whose id the other index does not hold.  Both hold of any number of merges, one after another.  What an id names
after a merge is read off the two indexes (`node?_merge_eq`), the index that was taken in first.
-/
import SolidityNav.Index

namespace SolidityNav.Index

set_option autoImplicit false

open SolidityNav.Ast (Node NodeId)

theorem mem_nodes_iff {index : Index} {id : NodeId} : id ∈ index.nodes ↔ ∃ node, index.node? id = some node := by
  rw [Std.ExtTreeMap.mem_iff_isSome_getElem?, Option.isSome_iff_exists]
  rfl

/-- No id names a node of both indexes. -/
def Apart (index other : Index) : Prop :=
  ∀ id ∈ index.nodes, id ∉ other.nodes

/-- Whether two indexes share no id can be checked one id after another. -/
theorem apart_iff_all {index other : Index} :
    index.Apart other ↔ (index.nodes.keys.all fun id => !other.nodes.contains id) = true := by
  simp only [Apart, List.all_eq_true, Std.ExtTreeMap.mem_keys, Bool.not_eq_true', ← Std.ExtTreeMap.contains_iff_mem,
    Bool.not_eq_true]

theorem node?_merge {index other : Index} {id : NodeId} (missing : id ∉ other.nodes) :
    (index.merge other).node? id = index.node? id := by
  apply Std.ExtTreeMap.getElem?_insertMany_list_of_contains_eq_false
  rw [Std.ExtTreeMap.map_fst_toList_eq_keys]
  simpa using missing

/-- The nodes that are taken in win. -/
theorem node?_merge_eq (index other : Index) (id : NodeId) :
    (index.merge other).node? id = (other.node? id).or (index.node? id) := by
  cases held : other.node? id with
  | none =>
      have missing : id ∉ other.nodes := by
        rw [mem_nodes_iff, held]
        simp
      exact node?_merge missing
  | some node =>
      exact Std.ExtTreeMap.getElem?_insertMany_list_of_mem Std.ReflCmp.compare_self Std.ExtTreeMap.distinct_keys_toList
        (Std.ExtTreeMap.mem_toList_iff_getElem?_eq_some.mpr held)

theorem mem_nodes_merge {index other : Index} {id : NodeId} :
    id ∈ (index.merge other).nodes ↔ id ∈ other.nodes ∨ id ∈ index.nodes := by
  simp only [mem_nodes_iff, node?_merge_eq]
  cases other.node? id <;> simp

theorem node?_foldl_merge {others : List Index} {id : NodeId} (missing : ∀ other ∈ others, id ∉ other.nodes)
    (index : Index) : (others.foldl merge index).node? id = index.node? id := by
  induction others generalizing index with
  | nil => rfl
  | cons other rest ih =>
      rw [List.foldl_cons, ih fun later member => missing later (List.mem_cons_of_mem other member)]
      exact node?_merge (missing other List.mem_cons_self)

/-- Merges take no id away. -/
theorem mem_nodes_foldl_merge {index : Index} {id : NodeId} (member : id ∈ index.nodes) (others : List Index) :
    id ∈ (others.foldl merge index).nodes := by
  induction others generalizing index with
  | nil => exact member
  | cons other rest ih => exact ih (mem_nodes_merge.mpr (Or.inr member))

/-- Merges change nothing but the nodes. -/
theorem foldl_merge_eq (others : List Index) (index : Index) :
    others.foldl merge index = { index with nodes := (others.foldl merge index).nodes } := by
  induction others generalizing index with
  | nil => rfl
  | cons other rest ih => exact ih (index.merge other)

@[simp] theorem root_foldl_merge (others : List Index) (index : Index) :
    (others.foldl merge index).root = index.root := by
  rw [foldl_merge_eq]

@[simp] theorem offsets_foldl_merge (others : List Index) (index : Index) :
    (others.foldl merge index).offsets = index.offsets := by
  rw [foldl_merge_eq]

@[simp] theorem uses_foldl_merge (others : List Index) (index : Index) :
    (others.foldl merge index).uses = index.uses := by
  rw [foldl_merge_eq]

@[simp] theorem symbols_foldl_merge (others : List Index) (index : Index) :
    (others.foldl merge index).symbols = index.symbols := by
  rw [foldl_merge_eq]

/-- After merges an id names the node of the last index that holds one. -/
theorem node?_foldl_merge_eq (others : List Index) (index : Index) (id : NodeId) :
    (others.foldl merge index).node? id =
      (others.reverse.findSome? fun other => other.node? id).or (index.node? id) := by
  induction others generalizing index with
  | nil => rfl
  | cons other rest ih =>
      rw [List.foldl_cons, ih, node?_merge_eq, List.reverse_cons, List.findSome?_append, Option.or_assoc,
        List.findSome?_singleton]

/-- Merges of indexes without ids of its own leave an index all its nodes. -/
theorem node?_foldl_merge_of_apart {index : Index} {others : List Index} (apart : ∀ other ∈ others, index.Apart other)
    {id : NodeId} {node : Ast.Node} (found : index.node? id = some node) :
    (others.foldl merge index).node? id = some node := by
  have own : id ∈ index.nodes := mem_nodes_iff.mpr ⟨node, found⟩
  rw [node?_foldl_merge (fun other member => apart other member id own), found]

/-- A node that one of the indexes holds is there after the merges, if no other index holds another one under its id. -/
theorem node?_foldl_merge_of_agree {others : List Index} {index holder : Index} {id : NodeId} {node : Node}
    (agree : ∀ other ∈ index :: others, ∀ held, other.node? id = some held → held = node)
    (member : holder ∈ index :: others) (found : holder.node? id = some node) :
    (others.foldl merge index).node? id = some node := by
  induction others generalizing index holder with
  | nil =>
      rw [List.mem_singleton] at member
      exact member ▸ found
  | cons other rest ih =>
      rw [List.forall_mem_cons, List.forall_mem_cons] at agree
      obtain ⟨first, second, later⟩ := agree
      have merged (held : Node) (holds : (index.merge other).node? id = some held) : held = node := by
        rw [node?_merge_eq, Option.or_eq_some_iff] at holds
        exact holds.elim (second held) fun kept => first held kept.2
      have agreeing : ∀ next ∈ index.merge other :: rest, ∀ held, next.node? id = some held → held = node :=
        List.forall_mem_cons.mpr ⟨merged, later⟩
      rw [List.foldl_cons]
      rcases List.mem_cons.mp member with rfl | inOthers
      · refine ih agreeing List.mem_cons_self ?_
        rw [node?_merge_eq, found]
        cases taken : other.node? id with
        | none => rfl
        | some held => rw [second held taken]; rfl
      · rcases List.mem_cons.mp inOthers with rfl | inRest
        · refine ih agreeing List.mem_cons_self ?_
          rw [node?_merge_eq, found]
          rfl
        · exact ih agreeing (List.mem_cons_of_mem _ inRest) found

/-- A node that is there after the merges is one of an index. -/
theorem exists_holder_of_node?_foldl_merge {others : List Index} {index : Index} {id : NodeId} {node : Node}
    (found : (others.foldl merge index).node? id = some node) :
    ∃ holder ∈ index :: others, holder.node? id = some node := by
  induction others generalizing index with
  | nil => exact ⟨index, List.mem_cons_self, found⟩
  | cons other rest ih =>
      obtain ⟨holder, member, holds⟩ := ih found
      rcases List.mem_cons.mp member with rfl | inRest
      · rw [node?_merge_eq, Option.or_eq_some_iff] at holds
        rcases holds with taken | ⟨-, kept⟩
        · exact ⟨other, by simp, taken⟩
        · exact ⟨index, by simp, kept⟩
      · exact ⟨holder, by simp [inRest], holds⟩

end SolidityNav.Index
