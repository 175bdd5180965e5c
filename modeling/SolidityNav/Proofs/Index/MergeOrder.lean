/-
# Proofs.Index.MergeOrder -- merging in any order, any number of times

Each merge overwrites nodes, so in general it matters which one comes last.  Among indexes without an id in common it does
not: an id has one holder, and whenever that holder is merged in, the id names its node from then on
(`node?_foldl_merge_iff`).  So the nodes depend on which indexes were merged in and on nothing else, and they are as many
as these indexes have together (`size_foldl_merge`).

What an index files by offset or by declaration are ids of its own, and these keep their nodes.  So no lookup in its own
source sees the merges, although nodes of other sources may cover the same bytes.  `Absorbs` lists all this, and
`build_absorbs` says so of every index that is built.
-/
import Mathlib.Algebra.GroupWithZero.Nat
import Mathlib.Data.List.Pairwise
import SolidityNav.Proofs.Index.Closure
import SolidityNav.Proofs.Index.TypeDefinition

namespace SolidityNav.Index

set_option autoImplicit false

open SolidityNav.Ast (Node NodeId NodeType)

/-! ## Indexes without an id in common -/

instance : Std.Symm Apart :=
  ⟨fun _ _ apart id inSecond inFirst => apart id inFirst inSecond⟩

/-- Of indexes that share no id, one at most holds a given id. -/
theorem eq_of_holds {indexes : List Index} (apart : indexes.Pairwise Apart) {first second : Index}
    (inFirst : first ∈ indexes) (inSecond : second ∈ indexes) {id : NodeId} (holds : id ∈ first.nodes)
    (holdsToo : id ∈ second.nodes) : first = second := by
  by_contra different
  exact apart.forall inFirst inSecond different id holds holdsToo

theorem Apart.merge {index other third : Index} (apart : index.Apart third) (apartOther : other.Apart third) :
    (index.merge other).Apart third := by
  intro id member
  rcases mem_nodes_merge.mp member with taken | kept
  · exact apartOther id taken
  · exact apart id kept

theorem size_merge {index other : Index} (apart : index.Apart other) :
    (index.merge other).size = index.size + other.size := by
  have counted : (index.merge other).nodes.size = index.nodes.size + other.nodes.toList.length := by
    apply Std.ExtTreeMap.size_insertMany_list Std.ExtTreeMap.distinct_keys_toList
    intro id member
    rw [Std.ExtTreeMap.map_fst_toList_eq_keys]
    simpa using apart id member
  rwa [Std.ExtTreeMap.length_toList] at counted

/-- **Merges add up**, when no two of the indexes share an id. -/
theorem size_foldl_merge {index : Index} {others : List Index} (apart : (index :: others).Pairwise Apart) :
    (others.foldl merge index).size = index.size + (others.map size).sum := by
  induction others generalizing index with
  | nil => rfl
  | cons other rest ih =>
      obtain ⟨apartFirst, apartRest⟩ := List.pairwise_cons.mp apart
      obtain ⟨apartOther, apartLater⟩ := List.pairwise_cons.mp apartRest
      have merged : (index.merge other :: rest).Pairwise Apart := by
        refine List.pairwise_cons.mpr ⟨fun later member => ?_, apartLater⟩
        exact (apartFirst later (List.mem_cons_of_mem other member)).merge (apartOther later member)
      rw [List.foldl_cons, ih merged, size_merge (apartFirst other List.mem_cons_self), List.map_cons, List.sum_cons,
        Nat.add_assoc]

section Order

variable {own : Index} {others order : List Index} (apart : (own :: others).Pairwise Apart)
  (same : ∀ other, other ∈ order ↔ other ∈ others)
include apart same

/-- **After merges in any order an id names the node of its holder.** -/
theorem node?_foldl_merge_iff {id : NodeId} {node : Node} :
    (order.foldl merge own).node? id = some node ↔ ∃ holder ∈ own :: others, holder.node? id = some node := by
  have members : ∀ holder, holder ∈ own :: order ↔ holder ∈ own :: others := by
    intro holder
    rw [List.mem_cons, List.mem_cons, same]
  constructor
  · intro found
    obtain ⟨holder, member, holds⟩ := exists_holder_of_node?_foldl_merge found
    exact ⟨holder, (members holder).mp member, holds⟩
  · rintro ⟨holder, member, holds⟩
    refine node?_foldl_merge_of_agree (fun other inOrder held holdsToo => ?_) ((members holder).mpr member) holds
    have isHolder : other = holder :=
      eq_of_holds apart ((members other).mp inOrder) member (mem_nodes_iff.mpr ⟨held, holdsToo⟩)
        (mem_nodes_iff.mpr ⟨node, holds⟩)
    rw [isHolder, holds] at holdsToo
    exact (Option.some.inj holdsToo).symm

/-- The nodes do not depend on the order of the merges, nor on how often an index was merged in. -/
theorem nodes_foldl_merge_eq : (order.foldl merge own).nodes = (others.foldl merge own).nodes := by
  apply Std.ExtTreeMap.ext_getElem?
  intro id
  apply Option.ext
  intro node
  have inOrder : (order.foldl merge own).node? id = some node ↔ _ := node?_foldl_merge_iff apart same
  have inList : (others.foldl merge own).node? id = some node ↔ _ := node?_foldl_merge_iff apart fun _ => Iff.rfl
  exact inOrder.trans inList.symm

end Order

/-! ## Lookups in the own source -/

section Lookups

variable {own : Index} (closed : own.Closed) {order : List Index} (apart : ∀ other ∈ order, own.Apart other)

section Own

include apart

theorem node?_foldl_merge_of_mem {id : NodeId} (member : id ∈ own.nodes) :
    (order.foldl merge own).node? id = own.node? id :=
  node?_foldl_merge (fun other inOrder => apart other inOrder id member) own

theorem bind_node?_foldl_merge {found : Option NodeId} (held : ∀ id, found = some id → id ∈ own.nodes) :
    found.bind (order.foldl merge own).node? = found.bind own.node? := by
  cases found with
  | none => rfl
  | some id => exact node?_foldl_merge_of_mem apart (held id rfl)

theorem filterMap_node?_foldl_merge {α : Type} {entries : List α} {idOf : α → NodeId}
    (held : ∀ entry ∈ entries, idOf entry ∈ own.nodes) :
    (entries.filterMap fun entry => (order.foldl merge own).node? (idOf entry)) =
      entries.filterMap fun entry => own.node? (idOf entry) :=
  List.filterMap_congr fun entry member => node?_foldl_merge_of_mem apart (held entry member)

end Own

include closed apart

theorem atOffset?_foldl_merge (offset : Nat) :
    (order.foldl merge own).atOffset? offset = own.atOffset? offset := by
  rw [atOffset?, offsets_foldl_merge]
  apply bind_node?_foldl_merge apart
  intro id found
  exact closed.mem_nodes_of_tightest? found

theorem atSpan?_foldl_merge (span : Span) : (order.foldl merge own).atSpan? span = own.atSpan? span := by
  rw [atSpan?, offsets_foldl_merge]
  apply bind_node?_foldl_merge apart
  intro id found
  obtain ⟨stop, -, hit⟩ := Option.bind_eq_some_iff.mp found
  exact closed.mem_nodes_of_tightest? hit

theorem allAt_foldl_merge (span : Span) (kind : Option NodeType) :
    (order.foldl merge own).allAt span kind = own.allAt span kind := by
  rw [allAt, allAt, offsets_foldl_merge, filterMap_node?_foldl_merge apart]
  intro entry member
  exact closed.buckets _ entry (List.mem_of_mem_filter member)

theorem usesOf_foldl_merge (declaration : NodeId) :
    (order.foldl merge own).usesOf declaration = own.usesOf declaration := by
  rw [usesOf, usesOf, uses_foldl_merge]
  apply filterMap_node?_foldl_merge apart
  intro id member
  exact closed.uses declaration id (Array.mem_toList_iff.mp member)

end Lookups

/-! ## What merges come to -/

/-- The index `merged` is `own` with the nodes of `others` and nothing else changed, and no lookup in its own source sees
the difference. -/
structure Absorbs (own : Index) (others : List Index) (merged : Index) : Prop where
  /-- The nodes are those of merging the others once each, one after another. -/
  nodes : merged.nodes = (others.foldl merge own).nodes
  size : merged.size = own.size + (others.map Index.size).sum
  /-- Every node of every index is stored as it was, and there is no other. -/
  stored : ∀ id node, merged.node? id = some node ↔ ∃ holder ∈ own :: others, holder.node? id = some node
  root : merged.root = own.root
  offsets : merged.offsets = own.offsets
  uses : merged.uses = own.uses
  symbols : merged.symbols = own.symbols
  atOffset : ∀ offset, merged.atOffset? offset = own.atOffset? offset
  atSpan : ∀ span, merged.atSpan? span = own.atSpan? span
  allAt : ∀ span kind, merged.allAt span kind = own.allAt span kind
  usesOf : ∀ declaration, merged.usesOf declaration = own.usesOf declaration

/-- **Merging indexes without an id in common into a built one gives the same in any order and with any repetitions**, and
its own lookups are those it had before. -/
theorem build_absorbs {ast : Json} {own : Index} (built : build ast = .ok own) {others order : List Index}
    (apart : (own :: others).Pairwise Apart) (same : ∀ other, other ∈ order ↔ other ∈ others) :
    own.Absorbs others (order.foldl merge own) := by
  have closed : own.Closed := closed_of_composed (.built built)
  have nodes := nodes_foldl_merge_eq apart same
  have apartOwn : ∀ other ∈ order, own.Apart other := fun other member =>
    (List.pairwise_cons.mp apart).1 other ((same other).mp member)
  exact
    { nodes := nodes
      size := by
        rw [size, nodes]
        exact size_foldl_merge apart
      stored := fun _ _ => node?_foldl_merge_iff apart same
      root := root_foldl_merge order own
      offsets := offsets_foldl_merge order own
      uses := uses_foldl_merge order own
      symbols := symbols_foldl_merge order own
      atOffset := atOffset?_foldl_merge closed apartOwn
      atSpan := atSpan?_foldl_merge closed apartOwn
      allAt := allAt_foldl_merge closed apartOwn
      usesOf := usesOf_foldl_merge closed apartOwn }

/-- Two sources are merged into the sample, the second one before and after the first.  Both cover the last byte of the
sample, where the identifier is still found. -/
theorem build_absorbs_sample :
    ∃ own first second, build sampleAst = .ok own ∧ build foreignUseAst = .ok first ∧ build importingAst = .ok second ∧
      [own, first, second].Pairwise Apart ∧
      own.Absorbs [first, second] ([second, first, second].foldl merge own) ∧
      ([second, first, second].foldl merge own).size = 11 ∧
      (([second, first, second].foldl merge own).atOffset? 8).map Node.id = some 5 ∧
      ∃ foreign, second.node? 40 = some foreign ∧ foreign.src.contains 8 = true := by
  obtain ⟨own, built⟩ := sampleAst_build
  obtain ⟨first, builtFirst⟩ : ∃ first, build foreignUseAst = .ok first := exists_of_isOk (by decide +kernel)
  obtain ⟨second, builtSecond⟩ : ∃ second, build importingAst = .ok second := exists_of_isOk (by decide +kernel)
  have computed : ∀ own ∈ (build sampleAst).toOption, ∀ first ∈ (build foreignUseAst).toOption,
      ∀ second ∈ (build importingAst).toOption,
      (own.nodes.keys.all fun id => !first.nodes.contains id) = true ∧
      (own.nodes.keys.all fun id => !second.nodes.contains id) = true ∧
      (first.nodes.keys.all fun id => !second.nodes.contains id) = true ∧
      own.size + ([first, second].map Index.size).sum = 11 ∧ (own.atOffset? 8).map Node.id = some 5 ∧
      ∃ foreign ∈ second.node? 40, foreign.src.contains 8 = true := by
    decide +kernel
  rw [built, builtFirst, builtSecond] at computed
  obtain ⟨ownFirst, ownSecond, apartOthers, total, found, foreign, stored, covers⟩ :=
    computed own rfl first rfl second rfl
  have apart : [own, first, second].Pairwise Apart := by
    simp [apart_iff_all.mpr ownFirst, apart_iff_all.mpr ownSecond, apart_iff_all.mpr apartOthers]
  have same : ∀ other, other ∈ [second, first, second] ↔ other ∈ [first, second] := by
    simp only [List.mem_cons]
    grind
  have absorbs := build_absorbs built apart same
  exact ⟨own, first, second, built, builtFirst, builtSecond, apart, absorbs, absorbs.size.trans total,
    by rw [absorbs.atOffset, found], foreign, stored, covers⟩

end SolidityNav.Index
