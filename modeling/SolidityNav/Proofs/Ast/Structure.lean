/-
# Proofs.Ast.Structure -- the nodes below a node

The structural nodes of a node are the node itself and all that is reached from it through `RawNode.children`.
`RawNode.postorder` lists them, children before parents and in the order of the children; `RawNode.tour` is the
depth-first tour that enters each of them before its children and leaves it after them, and knows the path from
the root at every step.  `RawNode.arrivals` and `RawNode.visits` are its two halves: the nodes in the order of entering,
which is preorder, and in the order of leaving, which is postorder.  In postorder everything below a node stands before
it (`mem_front_of_above`).

Both lists follow `RawNode.children` and not the trees that walks go over.  The two agree: `Tree.ofJson?` gives the tree
of the node that a value is (`Tree.ofJson?_eq`), and the branches of that tree are the trees of the node's children
(`RawNode.branches_tree`).
-/
import Mathlib.Data.List.Nodup
import Mathlib.Data.List.Perm.Basic
import Mathlib.Logic.Relation
import SolidityNav.Ast.Tree

namespace SolidityNav.Ast

set_option autoImplicit false

namespace RawNode

/-! ## Reading a node -/

/-- A node is read off three of its fields, and keeps all of them. -/
theorem ofFields?_eq_some_iff {fields : List (String × Json)} {raw : RawNode} :
    ofFields? fields = some raw ↔
      (Table.find? "id" fields).bind Json.int64? = some raw.id ∧
      (Table.find? "nodeType" fields).bind Json.string? = some raw.tag ∧
      (Table.find? "src" fields).bind Json.string? = some raw.src ∧ raw.fields = fields := by
  obtain ⟨id, tag, src, own⟩ := raw
  simp only [ofFields?, Option.bind_eq_bind, Option.bind_eq_some_iff, Option.pure_def, Option.some.injEq, mk.injEq]
  constructor
  · rintro ⟨_, idFound, _, idRead, _, tagFound, _, tagRead, _, srcFound, _, srcRead, rfl, rfl, rfl, rfl⟩
    exact ⟨⟨_, idFound, idRead⟩, ⟨_, tagFound, tagRead⟩, ⟨_, srcFound, srcRead⟩, rfl⟩
  · rintro ⟨⟨_, idFound, idRead⟩, ⟨_, tagFound, tagRead⟩, ⟨_, srcFound, srcRead⟩, rfl⟩
    exact ⟨_, idFound, _, idRead, _, tagFound, _, tagRead, _, srcFound, _, srcRead, rfl, rfl, rfl, rfl⟩

theorem fields_of_ofFields? {fields : List (String × Json)} {raw : RawNode} (read : ofFields? fields = some raw) :
    raw.fields = fields :=
  (ofFields?_eq_some_iff.mp read).2.2.2

theorem ofJson?_object (fields : List (String × Json)) : ofJson? (.object fields) = ofFields? fields :=
  rfl

/-! ## Children are smaller -/

theorem sizeOf_ofJson? {value : Json} {raw : RawNode} (read : ofJson? value = some raw) :
    sizeOf raw.fields < sizeOf value := by
  cases value with
  | object fields =>
      have same := fields_of_ofFields? read
      simp [same]
  | _ => simp [ofJson?, Json.fields?] at read

theorem sizeOf_held {value : Json} {child : RawNode} (member : child ∈ held value) :
    sizeOf child.fields < sizeOf value := by
  cases value with
  | object fields =>
      have read : ofJson? (.object fields) = some child := by
        rw [ofJson?_object]
        simpa [held] using member
      exact sizeOf_ofJson? read
  | array items =>
      simp only [held, List.mem_filterMap] at member
      obtain ⟨item, inItems, read⟩ := member
      have below := sizeOf_ofJson? read
      have within := List.sizeOf_lt_of_mem inItems
      simp only [Json.array.sizeOf_spec]
      omega
  | _ => simp [held] at member

theorem mem_children {raw child : RawNode} {name : String} :
    (name, child) ∈ raw.children ↔ ∃ value, (name, value) ∈ raw.fields ∧ name ∉ scalarFields ∧ child ∈ held value := by
  simp only [children, List.mem_flatMap, Prod.exists]
  constructor
  · rintro ⟨field, value, inFields, member⟩
    split at member
    · simp at member
    · rename_i free
      obtain ⟨_, inHeld, same⟩ := List.mem_map.mp member
      cases same
      exact ⟨value, inFields, free, inHeld⟩
  · rintro ⟨value, inFields, free, inHeld⟩
    refine ⟨name, value, inFields, ?_⟩
    rw [if_neg free]
    exact List.mem_map.mpr ⟨child, inHeld, rfl⟩

theorem sizeOf_child {raw : RawNode} {child : String × RawNode} (member : child ∈ raw.children) :
    sizeOf child.2.fields < sizeOf raw.fields := by
  obtain ⟨value, inFields, -, inHeld⟩ := mem_children.mp member
  have below := sizeOf_held inHeld
  have within := List.sizeOf_lt_of_mem inFields
  simp only [Prod.mk.sizeOf_spec] at within
  omega

/-- What holds of a node as soon as it holds of all its children holds of every node. -/
theorem childInduction {motive : RawNode → Prop}
    (step : ∀ raw, (∀ child ∈ raw.children, motive child.2) → motive raw) (raw : RawNode) : motive raw :=
  step raw fun child member =>
    have := sizeOf_child member
    childInduction step child.2
termination_by sizeOf raw.fields

/-! ## Structural nodes -/

/-- The structural nodes, each after all that is below it. -/
def postorder (raw : RawNode) : List RawNode :=
  (raw.children.attach.flatMap fun child =>
    have := sizeOf_child child.2
    postorder child.1.2) ++ [raw]
termination_by sizeOf raw.fields

theorem postorder_eq (raw : RawNode) :
    raw.postorder = (raw.children.flatMap fun child => child.2.postorder) ++ [raw] := by
  rw [postorder, List.flatMap_subtype (g := fun child => child.2.postorder) (fun _ _ => rfl), List.unattach_attach]

/-- A node on the way of a depth-first walk, with the nodes above it, the nearest first. -/
structure Visit where
  raw : RawNode
  above : List RawNode

inductive Step where
  | enter (visit : Visit)
  | leave (visit : Visit)

/-- The walk through the structural nodes of a node that stands below `above`. -/
def tour (above : List RawNode) (raw : RawNode) : List Step :=
  .enter ⟨raw, above⟩ ::
    ((raw.children.attach.flatMap fun child =>
      have := sizeOf_child child.2
      tour (raw :: above) child.1.2) ++ [.leave ⟨raw, above⟩])
termination_by sizeOf raw.fields

theorem tour_eq (above : List RawNode) (raw : RawNode) :
    raw.tour above =
      .enter ⟨raw, above⟩ ::
        ((raw.children.flatMap fun child => child.2.tour (raw :: above)) ++ [.leave ⟨raw, above⟩]) := by
  rw [tour, List.flatMap_subtype (g := fun child => child.2.tour (raw :: above)) (fun _ _ => rfl),
    List.unattach_attach]

namespace Visit

def parent? (visit : Visit) : Option RawNode :=
  visit.above.head?

end Visit

namespace Step

def entered? : Step → Option Visit
  | .enter visit => some visit
  | .leave _ => none

def left? : Step → Option Visit
  | .enter _ => none
  | .leave visit => some visit

end Step

/-- The structural nodes with the paths to them, in the order in which a walk leaves them. -/
def visits (above : List RawNode) (raw : RawNode) : List Visit :=
  (raw.tour above).filterMap Step.left?

theorem visits_eq (above : List RawNode) (raw : RawNode) :
    raw.visits above = (raw.children.flatMap fun child => child.2.visits (raw :: above)) ++ [⟨raw, above⟩] := by
  rw [visits, tour_eq, List.filterMap_cons_none rfl, List.filterMap_append, List.filterMap_flatMap]
  rfl

/-- The structural nodes with the paths to them, in the order in which a walk enters them. -/
def arrivals (above : List RawNode) (raw : RawNode) : List Visit :=
  (raw.tour above).filterMap Step.entered?

theorem arrivals_eq (above : List RawNode) (raw : RawNode) :
    raw.arrivals above = ⟨raw, above⟩ :: raw.children.flatMap fun child => child.2.arrivals (raw :: above) := by
  rw [arrivals, tour_eq, List.filterMap_cons_some (f := Step.entered?) rfl, List.filterMap_append,
    List.filterMap_flatMap, List.filterMap_cons_none rfl, List.filterMap_nil, List.append_nil]
  rfl

/-- A walk leaves the nodes that it enters. -/
theorem arrivals_perm_visits (raw : RawNode) (above : List RawNode) :
    (raw.arrivals above).Perm (raw.visits above) := by
  induction raw using childInduction generalizing above with
  | step raw ih =>
      have below := List.Perm.flatMap_left raw.children fun child member => ih child member (raw :: above)
      rw [arrivals_eq, visits_eq]
      exact (below.cons _).trans (List.perm_append_singleton _ _).symm

theorem root_mem_visits (raw : RawNode) : (⟨raw, []⟩ : Visit) ∈ raw.visits [] := by
  rw [visits_eq]
  simp

theorem map_raw_visits (raw : RawNode) (above : List RawNode) :
    (raw.visits above).map Visit.raw = raw.postorder := by
  induction raw using childInduction generalizing above with
  | step raw ih =>
      rw [visits_eq, postorder_eq, List.map_append, List.map_flatMap]
      congr 1
      exact List.flatMap_congr fun child member => ih child member (raw :: above)

/-- A visit below `above` is that of the node itself, or its parent is visited too and has it as a child. -/
theorem mem_visits_cases {raw : RawNode} {above : List RawNode} {visit : Visit} (member : visit ∈ raw.visits above) :
    visit = ⟨raw, above⟩ ∨
      ∃ parent rest, visit.above = parent :: rest ∧ (⟨parent, rest⟩ : Visit) ∈ raw.visits above ∧
        visit.raw ∈ parent.children.map Prod.snd := by
  induction raw using childInduction generalizing above with
  | step raw ih =>
      rw [visits_eq, List.mem_append, List.mem_flatMap, List.mem_singleton] at member
      rcases member with ⟨child, inChildren, below⟩ | here
      · right
        have inside : ∀ other ∈ child.2.visits (raw :: above), other ∈ raw.visits above := by
          intro other inBelow
          rw [visits_eq, List.mem_append, List.mem_flatMap]
          exact Or.inl ⟨child, inChildren, inBelow⟩
        rcases ih child inChildren below with rfl | ⟨parent, rest, path, visited, isChild⟩
        · refine ⟨raw, above, rfl, ?_, List.mem_map_of_mem inChildren⟩
          rw [visits_eq]
          simp
        · exact ⟨parent, rest, path, inside _ visited, isChild⟩
      · exact Or.inl here

/-- What is right below a visited node is visited from there. -/
theorem child_mem_visits {raw : RawNode} {above : List RawNode} {visit : Visit} (member : visit ∈ raw.visits above)
    {child : String × RawNode} (isChild : child ∈ visit.raw.children) :
    (⟨child.2, visit.raw :: visit.above⟩ : Visit) ∈ raw.visits above := by
  induction raw using childInduction generalizing above with
  | step raw ih =>
      rw [visits_eq, List.mem_append, List.mem_flatMap, List.mem_singleton] at member ⊢
      left
      rcases member with ⟨other, isOther, below⟩ | rfl
      · exact ⟨other, isOther, ih other isOther below⟩
      · refine ⟨child, isChild, ?_⟩
        rw [visits_eq]
        simp

/-- Below the root of a tour the path is never empty. -/
theorem above_ne_nil_of_mem_tour {raw : RawNode} {above : List RawNode} (nonempty : above ≠ []) {visit : Visit}
    (member : Step.enter visit ∈ raw.tour above) : visit.above ≠ [] := by
  induction raw using childInduction generalizing above with
  | step raw ih =>
      rw [tour_eq, List.mem_cons, List.mem_append, List.mem_flatMap, List.mem_singleton] at member
      rcases member with same | ⟨child, inChildren, below⟩ | same
      · cases same
        exact nonempty
      · exact ih child inChildren (List.cons_ne_nil raw above) below
      · cases same

/-- The root and the children of all structural nodes are the structural nodes, each as often as it occurs. -/
theorem children_perm_postorder (raw : RawNode) :
    (raw :: raw.postorder.flatMap fun node => node.children.map Prod.snd).Perm raw.postorder := by
  induction raw using childInduction with
  | step raw ih =>
      have below : (raw.children.map Prod.snd ++
          raw.children.flatMap fun child => child.2.postorder.flatMap fun node => node.children.map Prod.snd).Perm
            (raw.children.flatMap fun child => child.2.postorder) :=
        (List.map_append_flatMap_perm ..).trans (List.Perm.flatMap_left _ ih)
      rw [postorder_eq, List.flatMap_append, List.flatMap_singleton, List.flatMap_assoc]
      have front := (List.perm_append_comm.trans below).cons raw
      exact front.trans (List.perm_append_singleton raw _).symm

theorem raw_mem_postorder {raw : RawNode} {above : List RawNode} {visit : Visit} (member : visit ∈ raw.visits above) :
    visit.raw ∈ raw.postorder := by
  rw [← map_raw_visits raw above]
  exact List.mem_map_of_mem member

/-- All nodes on the way to a node of a walk are structural nodes. -/
theorem mem_postorder_of_mem_path {root : RawNode} (above : List RawNode) (raw : RawNode)
    (visited : (⟨raw, above⟩ : Visit) ∈ root.visits []) : ∀ other ∈ raw :: above, other ∈ root.postorder := by
  induction above generalizing raw with
  | nil => simpa using raw_mem_postorder visited
  | cons parent rest ih =>
      rcases mem_visits_cases visited with impossible | ⟨_, _, same, visitedParent, -⟩
      · cases impossible
      · cases same
        exact List.forall_mem_cons.mpr ⟨raw_mem_postorder visited, ih parent visitedParent⟩

theorem parent_mem_postorder {root parent : RawNode} {visit : Visit} (member : visit ∈ root.visits [])
    (isParent : visit.parent? = some parent) : parent ∈ root.postorder :=
  mem_postorder_of_mem_path visit.above visit.raw member parent (List.mem_cons_of_mem _ (List.mem_of_head? isParent))

/-- What is right below a structural node is one. -/
theorem child_mem_postorder {root raw : RawNode} {child : String × RawNode} (member : raw ∈ root.postorder)
    (isChild : child ∈ raw.children) : child.2 ∈ root.postorder := by
  apply root.children_perm_postorder.mem_iff.mp
  apply List.mem_cons_of_mem
  exact List.mem_flatMap.mpr ⟨raw, member, List.mem_map_of_mem isChild⟩

/-! ## What is below a node -/

/-- `low` is reached from the node through children, in one step or more. -/
def Above (raw low : RawNode) : Prop :=
  Relation.TransGen (fun parent child => child ∈ parent.children.map Prod.snd) raw low

theorem self_mem_postorder (raw : RawNode) : raw ∈ raw.postorder := by
  rw [postorder_eq]
  simp

theorem exists_child_of_above {raw low : RawNode} (above : raw.Above low) :
    ∃ child ∈ raw.children, low ∈ child.2.postorder := by
  induction above with
  | single isChild =>
      obtain ⟨child, member, rfl⟩ := List.mem_map.mp isChild
      exact ⟨child, member, child.2.self_mem_postorder⟩
  | tail _ isChild ih =>
      obtain ⟨child, member, inside⟩ := ih
      obtain ⟨next, isNext, rfl⟩ := List.mem_map.mp isChild
      exact ⟨child, member, child_mem_postorder inside isNext⟩

theorem mem_postorder_of_above {root raw low : RawNode} (member : raw ∈ root.postorder) (above : raw.Above low) :
    low ∈ root.postorder := by
  induction above with
  | single isChild =>
      obtain ⟨child, held, rfl⟩ := List.mem_map.mp isChild
      exact child_mem_postorder member held
  | tail _ isChild ih =>
      obtain ⟨child, held, rfl⟩ := List.mem_map.mp isChild
      exact child_mem_postorder ih held

/-- The structural nodes of a node stand together. -/
theorem postorder_infix {root raw : RawNode} (member : raw ∈ root.postorder) : raw.postorder <:+: root.postorder := by
  induction root using childInduction with
  | step root ih =>
      rw [postorder_eq, List.mem_append, List.mem_flatMap, List.mem_singleton] at member
      rcases member with ⟨child, isChild, below⟩ | rfl
      · have inChildren : child.2.postorder <:+: root.children.flatMap fun child => child.2.postorder :=
          List.infix_of_mem_flatten (List.mem_map_of_mem isChild)
        rw [root.postorder_eq]
        exact (ih child isChild below).trans (inChildren.trans (List.prefix_append ..).isInfix)
      · exact List.infix_rfl

/-- **What is below a node stands before it**, when no node occurs twice. -/
theorem mem_front_of_above {root raw low : RawNode} (distinct : root.postorder.Nodup) {front back : List RawNode}
    (split : root.postorder = front ++ raw :: back) (above : raw.Above low) : low ∈ front := by
  obtain ⟨child, isChild, inside⟩ := exists_child_of_above above
  obtain ⟨before, behind, together⟩ := postorder_infix (show raw ∈ root.postorder by simp [split])
  have placed : root.postorder =
      (before ++ raw.children.flatMap fun child => child.2.postorder) ++ raw :: behind := by
    rw [← together, raw.postorder_eq]
    simp
  -- The node occurs once, so both ways to split the list at it are the same.
  rw [placed, List.nodup_middle, List.nodup_cons, List.mem_append, not_or] at distinct
  rw [placed] at split
  rw [← ((List.append_cons_inj_of_notMem distinct.1.1 distinct.1.2).mp split).1]
  exact List.mem_append_right before (List.mem_flatMap.mpr ⟨child, isChild, inside⟩)

/-! ## The tree of a node -/

def tree (raw : RawNode) : Tree :=
  .node raw (Tree.ofFields raw.fields)

end RawNode

namespace Tree

theorem ofJson?_eq (value : Json) : ofJson? value = (RawNode.ofJson? value).map RawNode.tree := by
  cases value with
  | object fields =>
      rw [ofJson?, RawNode.ofJson?_object]
      refine Option.map_congr fun raw read => ?_
      rw [RawNode.tree, RawNode.fields_of_ofFields? read]
  | _ => rfl

theorem ofItems_eq (items : List Json) : ofItems items = (items.filterMap RawNode.ofJson?).map RawNode.tree := by
  induction items with
  | nil => rfl
  | cons item rest ih =>
      rw [ofItems, ofJson?_eq, ih]
      cases read : RawNode.ofJson? item with
      | none => rw [List.filterMap_cons_none read]; rfl
      | some raw => rw [List.filterMap_cons_some read]; rfl

theorem held_eq (value : Json) : held value = (RawNode.held value).map RawNode.tree := by
  cases value with
  | object fields =>
      rw [held, RawNode.held]
      cases read : RawNode.ofFields? fields with
      | none => rfl
      | some raw =>
          have same := RawNode.fields_of_ofFields? read
          simp [RawNode.tree, same]
  | array items => rw [held, ofItems_eq, RawNode.held]
  | _ => rfl

theorem ofFields_eq (fields : List (String × Json)) :
    ofFields fields = fields.flatMap fun (name, value) =>
      if name ∈ scalarFields then [] else (held value).map fun tree => (name, tree) := by
  induction fields with
  | nil => rfl
  | cons field rest ih =>
      obtain ⟨name, value⟩ := field
      rw [ofFields, ih, List.flatMap_cons]
      by_cases scalar : name ∈ scalarFields <;> simp [scalar]

end Tree

namespace RawNode

/-- The branches below a node are the trees of its children. -/
theorem branches_tree (raw : RawNode) :
    Tree.ofFields raw.fields = raw.children.map fun child => (child.1, child.2.tree) := by
  rw [Tree.ofFields_eq, children, List.map_flatMap]
  refine List.flatMap_congr fun field _ => ?_
  obtain ⟨name, value⟩ := field
  dsimp only
  split
  · rfl
  · rw [Tree.held_eq, List.map_map, List.map_map]
    rfl

theorem map_raw_branches (children : List (String × RawNode)) :
    ((children.map fun child => (child.1, child.2.tree)).map fun (name, tree) => (name, tree.raw)) = children := by
  rw [List.map_map]
  exact List.map_id children

theorem tree_eq (raw : RawNode) :
    raw.tree = .node raw (raw.children.map fun child => (child.1, child.2.tree)) := by
  rw [tree, branches_tree]

end RawNode

end SolidityNav.Ast
