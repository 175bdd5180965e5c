/-
# Proofs.Index.Extents -- all nodes of an extent, as a walk over the AST would list them

An exact lookup takes one bucket, keeps the entries of one length and reads their nodes back by id.  A walk over the whole
AST that keeps the nodes with the start and the length in question is the plain way to the same list
(`RawNode.withExtent`).  The two agree, node by node and in the same order (`allAt_index`), also when other indexes were
merged in: the nodes that these bring are in no bucket, and none of them takes the place of a node that is.

`Lists root own others` puts this together, and `build_lists` says so of every index that is built.
-/
import SolidityNav.Proofs.Index.Lookup
import SolidityNav.Proofs.Index.Uses

namespace SolidityNav

set_option autoImplicit false

open SolidityNav.Ast (Node NodeId NodeType RawNode)
open SolidityNav.Ast.RawNode (entryAt? hasExtent)

/-- The structural nodes with the start and the length of a span, of one kind if asked for, in postorder.  The file of
the span does not matter, nor do the files of the nodes. -/
def Ast.RawNode.withExtent (root : RawNode) (span : Span) (kind : Option NodeType) : List RawNode :=
  root.postorder.filter fun raw => raw.hasExtent span && kind.all (raw.nodeType == ·)

theorem Ast.RawNode.mem_postorder_of_mem_withExtent {root raw : RawNode} {span : Span} {kind : Option NodeType}
    (member : raw ∈ root.withExtent span kind) : raw ∈ root.postorder :=
  List.mem_of_mem_filter member

namespace Index

/-! ## From a bucket to the nodes of an extent -/

/-- The entries of one length in a bucket are those of the nodes with that extent. -/
theorem filter_bucket_length (root : RawNode) {span : Span} (valid : span.isValid = true) :
    ((root.index.offsets.bucket span.start.toInt.toNat).filter fun entry => (entry.length : Int) = span.length.toInt) =
      (root.postorder.filter (hasExtent span)).map fun raw => ⟨span.length.toInt.toNat, raw.id⟩ := by
  obtain ⟨-, nonnegative, -⟩ := Span.isValid_iff.mp valid
  have measured (entry : Entry) :
      decide ((entry.length : Int) = span.length.toInt) = decide (entry.length = span.length.toInt.toNat) := by
    rw [decide_eq_decide]
    omega
  simp only [measured]
  rw [bucket_index, List.filter_filterMap, ← List.filterMap_eq_map, List.filterMap_filter]
  refine List.filterMap_congr fun raw _ => ?_
  by_cases extent : raw.hasExtent span = true
  · rw [(hasExtent_iff_entryAt? valid).mp extent, if_pos extent]
    exact Option.filter_some_pos (decide_eq_true rfl)
  · -- A node of another extent has an entry of another length in this bucket, or none.
    rw [if_neg extent, Option.filter_eq_none_iff]
    intro entry found
    rw [Bool.not_eq_true, ← any_entryAt? valid, Option.any_eq_false] at extent
    simpa using extent entry found

section Filable

variable {root : RawNode} (filable : root.Filable) {others : List Index}
  (apart : ∀ other ∈ others, root.index.Apart other)
include filable apart

/-- Reading the nodes of an extent back by id and keeping those of a kind is the same as keeping the node objects of that
kind and reading these back. -/
theorem allAt_eq_filterMap {span : Span} (valid : span.isValid = true) (kind : Option NodeType) :
    (others.foldl merge root.index).allAt span kind =
      (root.withExtent span kind).filterMap fun raw => (others.foldl merge root.index).node? raw.id := by
  rw [allAt, if_pos valid, offsets_foldl_merge, filter_bucket_length root valid, List.filterMap_map,
    List.filter_filterMap, RawNode.withExtent, List.filterMap_filter, List.filterMap_filter]
  refine List.filterMap_congr fun raw member => ?_
  obtain ⟨node, -, merged, -, nodeType, -⟩ := exists_node_of_mem filable apart member
  by_cases extent : raw.hasExtent span = true
  · by_cases kept : kind.all (raw.nodeType == ·) = true <;> simp [extent, kept, merged, nodeType, Option.filter]
  · simp [extent]

/-- **An exact lookup lists what a walk over the AST lists**, and drops none of it. -/
theorem allAt_index {span : Span} (valid : span.isValid = true) (kind : Option NodeType) :
    ((others.foldl merge root.index).allAt span kind).map some =
      (root.withExtent span kind).map fun raw => root.index.node? raw.id := by
  rw [allAt_eq_filterMap filable apart valid]
  apply map_filterMap_of_forall_some
  intro raw member
  obtain ⟨node, own, merged, -⟩ := exists_node_of_mem filable apart (RawNode.mem_postorder_of_mem_withExtent member)
  exact ⟨node, merged, own.symm⟩

theorem map_id_allAt_index {span : Span} (valid : span.isValid = true) (kind : Option NodeType) :
    ((others.foldl merge root.index).allAt span kind).map Node.id = (root.withExtent span kind).map RawNode.id := by
  rw [allAt_eq_filterMap filable apart valid]
  apply map_filterMap_of_forall_some
  intro raw member
  obtain ⟨node, -, merged, id, -⟩ := exists_node_of_mem filable apart (RawNode.mem_postorder_of_mem_withExtent member)
  exact ⟨node, merged, id⟩

end Filable

/-! ## What an exact lookup lists -/

/-- A span that points at no text has no nodes, whichever nodes are written with it. -/
theorem allAt_of_not_isValid (index : Index) {span : Span} (invalid : span.isValid = false) (kind : Option NodeType) :
    index.allAt span kind = [] := by
  simp [allAt, invalid]

/-- With `others` merged into the index `own` of `root`, exact lookups list the nodes of `root`. -/
structure Lists (root : RawNode) (own : Index) (others : List Index) : Prop where
  /-- At a valid span stand the nodes with its start and length, of the kind that is asked for, in postorder. -/
  listed : ∀ span kind, span.isValid = true →
    ((others.foldl merge own).allAt span kind).map some =
      (root.withExtent span kind).map fun raw => own.node? raw.id
  /-- At any other span there is nothing. -/
  nothing : ∀ span kind, span.isValid = false → (others.foldl merge own).allAt span kind = []
  /-- No node is listed twice. -/
  once : ∀ span kind, (((others.foldl merge own).allAt span kind).map Node.id).Nodup
  /-- The file that the span names does not matter. -/
  anyFile : ∀ (span : Span) kind file,
    (others.foldl merge own).allAt { span with file := file } kind = (others.foldl merge own).allAt span kind
  /-- No node is listed that was merged in. -/
  native : ∀ span kind, ∀ node ∈ (others.foldl merge own).allAt span kind, ∀ other ∈ others, node.id ∉ other.nodes

theorem lists_index {root : RawNode} (filable : root.Filable) {others : List Index}
    (apart : ∀ other ∈ others, root.index.Apart other) : Lists root root.index others where
  listed _ kind valid := allAt_index filable apart valid kind
  nothing _ kind invalid := allAt_of_not_isValid _ invalid kind
  once := by
    intro span kind
    cases valid : span.isValid with
    | false => simp [allAt_of_not_isValid _ valid]
    | true =>
        rw [map_id_allAt_index filable apart valid]
        exact filable.distinct.sublist (List.filter_sublist.map RawNode.id)
  anyFile _ _ _ := rfl
  native := by
    intro span kind node member other inOthers
    cases valid : span.isValid with
    | false =>
        rw [allAt_of_not_isValid _ valid] at member
        cases member
    | true =>
        have id : node.id ∈ (root.withExtent span kind).map RawNode.id := by
          rw [← map_id_allAt_index filable apart valid]
          exact List.mem_map_of_mem member
        obtain ⟨raw, kept, same⟩ := List.mem_map.mp id
        rw [← same]
        exact apart other inOthers raw.id (mem_nodes_index filable (RawNode.mem_postorder_of_mem_withExtent kept))

/-- **In a built index an exact lookup lists the nodes of an extent as a walk over the AST does**, whatever indexes with
other ids were merged into it. -/
theorem build_lists {ast : Json} {own : Index} (built : build ast = .ok own) (others : List Index)
    (apart : ∀ other ∈ others, own.Apart other) :
    ∃ root, RawNode.ofJson? ast = some root ∧ Lists root own others := by
  obtain ⟨root, read, filable, rfl⟩ := build_eq_ok_iff.mp built
  exact ⟨root, read, lists_index filable apart⟩

/-- A declaration without a name has the bytes of its type, which is said to be in another file; the node behind them
was generated. -/
def sharedExtentAst : Json :=
  .object [
    ("id", .int 9), ("nodeType", .string "SourceUnit"), ("src", .string "0:6:0"),
    ("nodes", .array [
      .object [
        ("id", .int 3), ("nodeType", .string "VariableDeclaration"), ("src", .string "0:4:0"), ("name", .string ""),
        ("typeName", .object [
          ("id", .int 2), ("nodeType", .string "ElementaryTypeName"), ("src", .string "0:4:1")])],
      .object [("id", .int 4), ("nodeType", .string "Block"), ("src", .string "-1:-1:-1")]])]

/-- An AST of another source, with a variable at the same bytes. -/
def foreignExtentAst : Json :=
  .object [
    ("id", .int 20), ("nodeType", .string "SourceUnit"), ("src", .string "0:4:1"),
    ("nodes", .array [
      .object [("id", .int 21), ("nodeType", .string "VariableDeclaration"), ("src", .string "0:4:1")]])]

/-- The type and the declaration are listed, the declaration alone as a variable, and neither the merged variable nor the
generated node. -/
theorem build_lists_shared :
    ∃ own foreign root, build sharedExtentAst = .ok own ∧ build foreignExtentAst = .ok foreign ∧ own.Apart foreign ∧
      RawNode.ofJson? sharedExtentAst = some root ∧ Lists root own [foreign] ∧
      ((own.merge foreign).allAt ⟨0, 4, 7⟩ none).map Node.id = [2, 3] ∧
      ((own.merge foreign).allAt ⟨0, 4, 7⟩ (some .variableDeclaration)).map Node.id = [3] ∧
      (own.merge foreign).allAt ⟨-1, -1, -1⟩ none = [] := by
  obtain ⟨own, built⟩ : ∃ own, build sharedExtentAst = .ok own := exists_of_isOk (by decide +kernel)
  obtain ⟨foreign, builtForeign⟩ : ∃ foreign, build foreignExtentAst = .ok foreign := exists_of_isOk (by decide +kernel)
  have computed : ∀ own ∈ (build sharedExtentAst).toOption, ∀ foreign ∈ (build foreignExtentAst).toOption,
      (own.nodes.keys.all fun id => !foreign.nodes.contains id) = true ∧
      ((own.merge foreign).allAt ⟨0, 4, 7⟩ none).map Node.id = [2, 3] ∧
      ((own.merge foreign).allAt ⟨0, 4, 7⟩ (some .variableDeclaration)).map Node.id = [3] := by
    decide +kernel
  rw [built, builtForeign] at computed
  obtain ⟨disjoint, both, declared⟩ := computed own rfl foreign rfl
  have apart : own.Apart foreign := apart_iff_all.mpr disjoint
  obtain ⟨root, read, lists⟩ := build_lists built [foreign] (by simpa using apart)
  have generated : (own.merge foreign).allAt ⟨-1, -1, -1⟩ none = [] := lists.nothing _ none (by decide)
  exact ⟨own, foreign, root, built, builtForeign, apart, read, lists, both, declared, generated⟩

end Index

end SolidityNav
