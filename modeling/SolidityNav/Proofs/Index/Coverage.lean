/-
# Proofs.Index.Coverage -- every node with a valid span is filed under its start

A built index files each structural node with a valid span once, under its own start and with its own length, and files
no other node.  `Covers root offsets` lists this from both sides: from the starts and buckets, and from the nodes.
`build_covers` says so of every index that is built.
-/
import Mathlib.Data.List.Nodup
import SolidityNav.Proofs.Index.Building

namespace SolidityNav

set_option autoImplicit false

open SolidityNav.Ast (NodeId RawNode)

/-- The entry of a node in the bucket of a start: that of a node with a valid span which starts there. -/
def Ast.RawNode.entryAt? (start : Nat) (raw : RawNode) : Option Index.Entry :=
  match raw.span? with
  | some span =>
      if span.isValid ∧ span.start.toInt = start then some ⟨span.length.toInt.toNat, raw.id⟩ else none
  | none => none

namespace Index

open SolidityNav.Ast.RawNode (entryAt?)

theorem entryAt?_of_span {raw : RawNode} {span : Span} (read : raw.span? = some span) (start : Nat) :
    raw.entryAt? start = OffsetIndex.entryAt? start (span, raw.id) := by
  rw [entryAt?, read]
  rfl

theorem entryAt?_of_invalid {raw : RawNode} {span : Span} (read : raw.span? = some span)
    (invalid : ¬ span.isValid = true) (start : Nat) : raw.entryAt? start = none := by
  rw [entryAt?, read]
  exact if_neg fun here => invalid here.1

theorem entryAt?_eq_some_iff {raw : RawNode} {start : Nat} {entry : Entry} :
    raw.entryAt? start = some entry ↔
      ∃ span, raw.span? = some span ∧ span.isValid ∧ span.start.toInt = start ∧
        entry = ⟨span.length.toInt.toNat, raw.id⟩ := by
  cases read : raw.span? with
  | none => simp [entryAt?, read]
  | some span =>
      rw [entryAt?_of_span read, OffsetIndex.entryAt?_eq_some_iff]
      simp only [Option.some.injEq, exists_eq_left']

/-! ## Buckets of an index -/

theorem bucket_index (root : RawNode) (start : Nat) :
    root.index.offsets.bucket start = root.postorder.filterMap (entryAt? start) := by
  rw [RawNode.offsets_index, OffsetIndex.bucket_finish, OffsetIndex.bucket_insertAll, OffsetIndex.bucket_empty,
    List.nil_append, List.filterMap_filterMap]
  refine List.filterMap_congr fun raw _ => ?_
  cases read : raw.span? with
  | none => rw [entryAt?, read]; rfl
  | some span => rw [entryAt?_of_span read]; rfl

theorem starts_index_ascending (root : RawNode) : root.index.offsets.starts.toList.Pairwise (· < ·) := by
  rw [RawNode.offsets_index]
  exact OffsetIndex.starts_finish_ascending _

theorem mem_starts_index {root : RawNode} {start : Nat} :
    start ∈ root.index.offsets.starts ↔
      ∃ raw ∈ root.postorder, ∃ span, raw.span? = some span ∧ span.isValid ∧ span.start.toInt = start := by
  rw [RawNode.offsets_index, OffsetIndex.mem_starts_finish, OffsetIndex.mem_buckets_insertAll]
  constructor
  · rintro (impossible | ⟨placed, member, valid, starts⟩)
    · simp [OffsetIndex.empty] at impossible
    · obtain ⟨raw, inTree, selected⟩ := List.mem_filterMap.mp member
      obtain ⟨span, read, rfl⟩ := Option.map_eq_some_iff.mp selected
      exact ⟨raw, inTree, span, read, valid, starts⟩
  · rintro ⟨raw, inTree, span, read, valid, starts⟩
    refine Or.inr ⟨(span, raw.id), List.mem_filterMap.mpr ⟨raw, inTree, ?_⟩, valid, starts⟩
    rw [read]
    rfl

theorem filter_id_eq_singleton {nodes : List RawNode} (distinct : (nodes.map RawNode.id).Nodup) {raw : RawNode}
    (member : raw ∈ nodes) : (nodes.filter fun other => other.id = raw.id) = [raw] := by
  induction nodes with
  | nil => cases member
  | cons node rest ih =>
      rw [List.map_cons, List.nodup_cons] at distinct
      rcases List.mem_cons.mp member with rfl | inRest
      · have others : (rest.filter fun other => other.id = raw.id) = [] := by
          rw [List.filter_eq_nil_iff]
          intro other inRest same
          exact distinct.1 (List.mem_map.mpr ⟨other, inRest, by simpa using same⟩)
        simp [others]
      · have unlike : node.id ≠ raw.id := fun same => distinct.1 (List.mem_map.mpr ⟨raw, inRest, same.symm⟩)
        simp [unlike, ih distinct.2 inRest]

/-- In a bucket a node has no entry but its own. -/
theorem filter_bucket_index {root : RawNode} (filable : root.Filable) {raw : RawNode} (member : raw ∈ root.postorder)
    (start : Nat) :
    ((root.index.offsets.bucket start).filter fun entry => entry.id = raw.id) = (raw.entryAt? start).toList := by
  have own := filter_id_eq_singleton filable.distinct member
  have keep : ∀ other ∈ root.postorder, (other.entryAt? start).filter (fun entry => entry.id = raw.id) =
      if other.id = raw.id then other.entryAt? start else none := by
    intro other _
    cases found : other.entryAt? start with
    | none => simp
    | some entry =>
        obtain ⟨_, -, -, -, rfl⟩ := entryAt?_eq_some_iff.mp found
        simp [Option.filter]
  calc ((root.index.offsets.bucket start).filter fun entry => entry.id = raw.id)
    _ = root.postorder.filterMap fun other => (other.entryAt? start).filter fun entry => entry.id = raw.id := by
      rw [bucket_index, List.filter_filterMap]
    _ = (root.postorder.filter fun other => other.id = raw.id).filterMap (entryAt? start) := by
      rw [List.filterMap_congr keep, List.filterMap_filter]
      simp only [decide_eq_true_eq]
    _ = (raw.entryAt? start).toList := by
      rw [own, List.filterMap_cons]
      cases raw.entryAt? start <;> rfl

/-! ## Coverage -/

/-- The offsets are those of the structural nodes of `root` that have a valid span. -/
structure Covers (root : RawNode) (offsets : OffsetIndex) : Prop where
  ascending : offsets.starts.toList.Pairwise (· < ·)
  /-- The starts are those of the nodes with a valid span. -/
  starts : ∀ start, start ∈ offsets.starts ↔
    ∃ raw ∈ root.postorder, ∃ span, raw.span? = some span ∧ span.isValid ∧ span.start.toInt = start
  /-- A bucket lists the lengths and ids of its nodes in postorder. -/
  buckets : ∀ start, offsets.bucket start = root.postorder.filterMap (entryAt? start)
  /-- A node with a valid span occurs once, under its own start and with its own length. -/
  filed : ∀ raw ∈ root.postorder, ∀ span, raw.span? = some span → span.isValid → ∀ start,
    ((offsets.bucket start).filter fun entry => entry.id = raw.id) =
      if span.start.toInt = start then [⟨span.length.toInt.toNat, raw.id⟩] else []
  /-- Any other node occurs nowhere. -/
  unfiled : ∀ raw ∈ root.postorder, ∀ span, raw.span? = some span → ¬ span.isValid → ∀ start,
    ∀ entry ∈ offsets.bucket start, entry.id ≠ raw.id

theorem covers_index {root : RawNode} (filable : root.Filable) : Covers root root.index.offsets where
  ascending := starts_index_ascending root
  starts _ := mem_starts_index
  buckets := bucket_index root
  filed := by
    intro raw member span read valid start
    rw [filter_bucket_index filable member, entryAt?, read]
    by_cases here : span.start.toInt = start <;> simp [valid, here]
  unfiled := by
    intro raw member span read invalid start entry inBucket same
    have found : entry ∈ (root.index.offsets.bucket start).filter fun entry => entry.id = raw.id := by
      simpa [same] using inBucket
    rw [filter_bucket_index filable member, entryAt?_of_invalid read invalid] at found
    cases found

/-- **A built index covers its AST**: each node with a valid span is filed once, where its span says. -/
theorem build_covers {ast : Json} {index : Index} (built : build ast = .ok index) :
    ∃ root, RawNode.ofJson? ast = some root ∧ Covers root index.offsets := by
  obtain ⟨root, read, filable, rfl⟩ := build_eq_ok_iff.mp built
  exact ⟨root, read, covers_index filable⟩

/-- The sample has two nodes with one start and a node without a valid span. -/
theorem build_covers_sample :
    ∃ index, build sampleAst = .ok index ∧
      ∃ root, RawNode.ofJson? sampleAst = some root ∧ Covers root index.offsets := by
  obtain ⟨index, built⟩ := sampleAst_build
  exact ⟨index, built, build_covers built⟩

end Index

end SolidityNav
