/-
# Proofs.Index.Uses -- the uses of a declaration are all nodes that refer to it

Building notes each node that refers to a declaration when it is left, and a lookup reads the noted ids back through the
nodes by id.  Nothing is lost on the way: the uses of a declaration are the nodes of the AST that refer to it, in
postorder and each once, also after other indexes were merged in (`usesOf_index`).  Whoever asks for the uses from one
of these nodes gets all of them, and so does whoever asks from the declaration.  `Traces root own index` lists this, and
`build_traces` says so of every index that is built.
-/
import SolidityNav.Navigation
import SolidityNav.Proofs.Index.Arena
import SolidityNav.Proofs.Index.Attributes
import SolidityNav.Proofs.Index.Merging

namespace SolidityNav

set_option autoImplicit false

open SolidityNav.Ast (Node NodeId RawNode)
open SolidityNav.Ast.RawNode (Step Visit)

def Ast.RawNode.referring (root : RawNode) (declaration : NodeId) : List RawNode :=
  root.postorder.filter fun raw => raw.reference? = some declaration

theorem Ast.RawNode.mem_referring {root raw : RawNode} {declaration : NodeId} :
    raw ∈ root.referring declaration ↔ raw ∈ root.postorder ∧ raw.reference? = some declaration := by
  rw [referring, List.mem_filter, decide_eq_true_eq]

namespace Index

/-! ## Noting uses -/

def noted? (declaration : NodeId) (visit : Visit) : Option NodeId :=
  if visit.raw.span?.isSome ∧ visit.raw.reference? = some declaration then some visit.raw.id else none

theorem noted?_of_node? {visit : Visit} {node : Node} (indexed : visit.node? = some node) (declaration : NodeId) :
    noted? declaration visit = if node.reference? = some declaration then some node.id else none := by
  obtain ⟨id, -, read, -, -⟩ := fields_of_node? indexed
  rw [noted?, reference?_of_node? indexed, read, id]
  simp

/-- Filing a node adds its id to the uses of what it refers to, and to no others. -/
theorem uses_file (draft : Draft) (raw : RawNode) (node : Node) (parent : Option RawNode) (scope : Scope)
    (declaration : NodeId) :
    ((draft.file raw node parent scope).uses.getD declaration #[]).toList =
      (draft.uses.getD declaration #[]).toList ++
        (if node.reference? = some declaration then some node.id else none).toList := by
  rw [Draft.file]
  cases refers : node.reference? with
  | none => simp
  | some target =>
      simp only [Std.ExtTreeMap.getD_alter, Std.LawfulEqCmp.compare_eq_iff_eq, Option.some.injEq]
      by_cases here : target = declaration
      · subst here
        simp [Std.ExtTreeMap.getD_eq_getD_getElem?]
      · simp [here]

theorem uses_foldl_advance (steps : List Step) (draft : Draft) (declaration : NodeId) :
    ((steps.foldl Draft.advance draft).uses.getD declaration #[]).toList =
      (draft.uses.getD declaration #[]).toList ++ (steps.filterMap Step.left?).filterMap (noted? declaration) := by
  induction steps generalizing draft with
  | nil => simp
  | cons step rest ih =>
      rw [List.foldl_cons, ih]
      cases step with
      | enter visit => rw [List.filterMap_cons_none rfl]; rfl
      | leave visit =>
          rw [List.filterMap_cons_some (f := Step.left?) rfl, Draft.advance, List.filterMap_cons]
          cases indexed : visit.node? with
          | none =>
              have unread : visit.raw.span? = none := by simpa [Visit.node?] using indexed
              have silent : noted? declaration visit = none := by simp [noted?, unread]
              rw [silent]
          | some node =>
              rw [uses_file, noted?_of_node? indexed, List.append_assoc]
              by_cases refers : node.reference? = some declaration <;> simp [refers]

section Filable

variable {root : RawNode} (filable : root.Filable)
include filable

/-- **The noted uses are the nodes that refer**, in postorder. -/
theorem uses_index (declaration : NodeId) :
    (root.index.uses.getD declaration #[]).toList = (root.referring declaration).map RawNode.id := by
  have noted := uses_foldl_advance (root.tour []) {} declaration
  have visited : ((root.tour []).filterMap Step.left?).filterMap (noted? declaration) =
      (root.visits []).filterMap fun visit =>
        if visit.raw.reference? = some declaration then some visit.raw.id else none := by
    refine List.filterMap_congr fun visit member => ?_
    have inTree : visit.raw ∈ root.postorder := RawNode.raw_mem_postorder member
    have readable := Option.isSome_iff_ne_none.mpr (filable.readable visit.raw inTree)
    simp [noted?, readable]
  have listed : (root.visits []).filterMap (fun visit =>
      if visit.raw.reference? = some declaration then some visit.raw.id else none) =
        (root.referring declaration).map RawNode.id := by
    rw [RawNode.referring, ← root.map_raw_visits [], List.filter_map, List.map_map, ← List.filterMap_eq_map,
      List.filterMap_filter]
    refine List.filterMap_congr fun visit _ => ?_
    simp
  have nothing : (({} : Draft).uses.getD declaration #[]).toList = [] := by simp
  rw [visited, listed, nothing, List.nil_append] at noted
  exact noted

theorem nodup_referring (declaration : NodeId) : ((root.referring declaration).map RawNode.id).Nodup :=
  filable.distinct.sublist ((List.filter_sublist).map RawNode.id)

/-! ## Reading uses back -/

variable {others : List Index} (apart : ∀ other ∈ others, root.index.Apart other)
include apart

/-- A node of the AST is still there when other indexes were merged in. -/
theorem exists_node_of_mem {raw : RawNode} (member : raw ∈ root.postorder) :
    ∃ node, root.index.node? raw.id = some node ∧ (others.foldl merge root.index).node? raw.id = some node ∧
      node.id = raw.id ∧ node.nodeType = raw.nodeType ∧ node.reference? = raw.reference? := by
  rw [← root.map_raw_visits []] at member
  obtain ⟨visit, visited, rfl⟩ := List.mem_map.mp member
  obtain ⟨node, indexed⟩ := exists_node_of_mem_visits filable visited
  obtain ⟨id, kind, -, -, -⟩ := fields_of_node? indexed
  have stored := (node?_index_eq_some_iff filable).mpr ⟨visit, visited, indexed, rfl⟩
  exact ⟨node, stored, node?_foldl_merge_of_apart apart stored, id, kind, reference?_of_node? indexed⟩

/-- **Reading uses back drops none of them.** -/
theorem usesOf_index (declaration : NodeId) :
    ((others.foldl merge root.index).usesOf declaration).map some =
      (root.referring declaration).map fun raw => root.index.node? raw.id := by
  rw [usesOf, uses_foldl_merge, uses_index filable, List.filterMap_map]
  apply map_filterMap_of_forall_some
  intro raw member
  obtain ⟨node, own, merged, -⟩ := exists_node_of_mem filable apart (RawNode.mem_referring.mp member).1
  exact ⟨node, merged, own.symm⟩

theorem map_id_usesOf_index (declaration : NodeId) :
    ((others.foldl merge root.index).usesOf declaration).map Node.id =
      (root.referring declaration).map RawNode.id := by
  rw [usesOf, uses_foldl_merge, uses_index filable, List.filterMap_map]
  apply map_filterMap_of_forall_some
  intro raw member
  obtain ⟨node, -, merged, id, -⟩ := exists_node_of_mem filable apart (RawNode.mem_referring.mp member).1
  exact ⟨node, merged, id⟩

end Filable

/-! ## From a node to the uses of its declaration -/

/-- From the nodes of `root`, whose own index is `own`, the index leads to all uses of what they refer to. -/
structure Traces (root : RawNode) (own index : Index) : Prop where
  /-- The uses of a declaration are the nodes that refer to it, in postorder, and none is left out. -/
  complete : ∀ declaration, (index.usesOf declaration).map some =
    (root.referring declaration).map fun raw => own.node? raw.id
  /-- No use is listed twice. -/
  once : ∀ declaration, ((index.usesOf declaration).map Node.id).Nodup
  /-- Nodes that refer to one declaration have the same references, and both are among them once. -/
  shared : ∀ declaration, ∀ u ∈ root.referring declaration, ∀ w ∈ root.referring declaration,
    ∃ first second uses, own.node? u.id = some first ∧ own.node? w.id = some second ∧
      index.references? first = some uses ∧ index.references? second = some uses ∧
      uses = index.usesOf declaration ∧ first ∈ uses ∧ second ∈ uses ∧
      (uses.map Node.id).count u.id = 1 ∧ (uses.map Node.id).count w.id = 1
  /-- A variable that refers to nothing has its own uses for references, none if it is not used. -/
  declared : ∀ raw ∈ root.postorder, raw.nodeType = .variableDeclaration → raw.reference? = none →
    ∃ node, own.node? raw.id = some node ∧ index.references? node = some (index.usesOf raw.id)
  /-- Any other node that refers to nothing has no references, and no other node is without. -/
  missing : ∀ raw ∈ root.postorder, ∃ node, own.node? raw.id = some node ∧
    (index.references? node = none ↔ raw.reference? = none ∧ raw.nodeType ≠ .variableDeclaration)

theorem references?_of_reference? {node : Node} {declaration : NodeId} (refers : node.reference? = some declaration)
    (index : Index) : index.references? node = some (index.usesOf declaration) := by
  rw [references?, usesTarget?, refers]
  rfl

theorem references?_of_variable {node : Node} (silent : node.reference? = none)
    (variable_ : node.nodeType = .variableDeclaration) (index : Index) :
    index.references? node = some (index.usesOf node.id) := by
  rw [references?, usesTarget?, silent, variable_]
  rfl

theorem references?_eq_none_iff {node : Node} {index : Index} :
    index.references? node = none ↔ node.reference? = none ∧ node.nodeType ≠ .variableDeclaration := by
  rw [references?, usesTarget?, Option.map_eq_none_iff]
  cases node.reference? with
  | some declaration => simp
  | none => simp

theorem traces_index {root : RawNode} (filable : root.Filable) {others : List Index}
    (apart : ∀ other ∈ others, root.index.Apart other) :
    Traces root root.index (others.foldl merge root.index) where
  complete := usesOf_index filable apart
  once declaration := by
    rw [map_id_usesOf_index filable apart]
    exact nodup_referring filable declaration
  shared := by
    intro declaration
    -- A node that refers to the declaration leads to its uses and is one of them.
    have each : ∀ raw ∈ root.referring declaration, ∃ node, root.index.node? raw.id = some node ∧
        (others.foldl merge root.index).references? node =
          some ((others.foldl merge root.index).usesOf declaration) ∧
        node ∈ (others.foldl merge root.index).usesOf declaration ∧
        (((others.foldl merge root.index).usesOf declaration).map Node.id).count raw.id = 1 := by
      intro raw member
      obtain ⟨inTree, refers⟩ := RawNode.mem_referring.mp member
      obtain ⟨node, own, -, -, -, reference⟩ := exists_node_of_mem filable apart inTree
      refine ⟨node, own, references?_of_reference? (reference.trans refers) _, ?_, ?_⟩
      · have listed : some node ∈ ((others.foldl merge root.index).usesOf declaration).map some := by
          rw [usesOf_index filable apart, ← own]
          exact List.mem_map_of_mem (f := fun raw : RawNode => root.index.node? raw.id) member
        simpa using listed
      · rw [map_id_usesOf_index filable apart]
        exact List.count_eq_one_of_mem (nodup_referring filable declaration) (List.mem_map_of_mem member)
    intro u inU w inW
    obtain ⟨first, ownFirst, leadsFirst, isUseFirst, onceFirst⟩ := each u inU
    obtain ⟨second, ownSecond, leadsSecond, isUseSecond, onceSecond⟩ := each w inW
    exact ⟨first, second, _, ownFirst, ownSecond, leadsFirst, leadsSecond, rfl, isUseFirst, isUseSecond, onceFirst,
      onceSecond⟩
  declared := by
    intro raw member kind silent
    obtain ⟨node, own, -, id, nodeType, reference⟩ := exists_node_of_mem filable apart member
    refine ⟨node, own, ?_⟩
    rw [references?_of_variable (reference.trans silent) (nodeType.trans kind), id]
  missing := by
    intro raw member
    obtain ⟨node, own, -, -, nodeType, reference⟩ := exists_node_of_mem filable apart member
    refine ⟨node, own, ?_⟩
    rw [references?_eq_none_iff, reference, nodeType]

/-- **A built index leads from every use to all uses**, whatever indexes with other ids were merged into it. -/
theorem build_traces {ast : Json} {own : Index} (built : build ast = .ok own) (others : List Index)
    (apart : ∀ other ∈ others, own.Apart other) :
    ∃ root, RawNode.ofJson? ast = some root ∧ Traces root own (others.foldl merge own) := by
  obtain ⟨root, read, filable, rfl⟩ := build_eq_ok_iff.mp built
  exact ⟨root, read, traces_index filable apart⟩

/-- An AST of another source, whose identifier refers to the variable of the sample. -/
def foreignUseAst : Json :=
  .object [
    ("id", .int 20), ("nodeType", .string "SourceUnit"), ("src", .string "0:1:1"),
    ("nodes", .array [
      .object [
        ("id", .int 21), ("nodeType", .string "Identifier"), ("src", .string "0:1:1"),
        ("referencedDeclaration", .int 3)]])]

/-- The variable of the sample has one use, and the merged identifier is not another. -/
theorem build_traces_sample :
    ∃ own foreign root, build sampleAst = .ok own ∧ build foreignUseAst = .ok foreign ∧ own.Apart foreign ∧
      RawNode.ofJson? sampleAst = some root ∧ Traces root own (own.merge foreign) ∧
      (root.referring 3).map RawNode.id = [5] ∧ ((own.merge foreign).usesOf 3).map Node.id = [5] := by
  obtain ⟨own, built⟩ := sampleAst_build
  obtain ⟨foreign, builtForeign⟩ : ∃ foreign, build foreignUseAst = .ok foreign :=
    exists_of_isOk (by decide +kernel)
  have apart : own.Apart foreign := by
    have checked : ∀ own ∈ (build sampleAst).toOption, ∀ foreign ∈ (build foreignUseAst).toOption,
        (own.nodes.keys.all fun id => !foreign.nodes.contains id) = true := by
      decide +kernel
    rw [built, builtForeign] at checked
    exact apart_iff_all.mpr (checked own rfl foreign rfl)
  obtain ⟨root, read, traces⟩ := build_traces built [foreign] (by simpa using apart)
  have referring : ∀ root ∈ RawNode.ofJson? sampleAst, (root.referring 3).map RawNode.id = [5] := by
    decide +kernel
  refine ⟨own, foreign, root, built, builtForeign, apart, read, traces, referring root read, ?_⟩
  have used : ∀ own ∈ (build sampleAst).toOption, ∀ foreign ∈ (build foreignUseAst).toOption,
      ((own.merge foreign).usesOf 3).map Node.id = [5] := by
    decide +kernel
  rw [built, builtForeign] at used
  exact used own rfl foreign rfl

end Index

end SolidityNav
