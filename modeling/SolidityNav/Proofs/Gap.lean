/-
# Proofs.Gap -- a selection that touches no node

A selection may lie between two nodes, behind the last one or before the first one, so that no node with a valid span
touches its bytes (`RawNode.Clears`).  A lookup looks into one bucket only, the one of the last start not behind the
selection, and only asks whether its entries reach the end of the selection.  Since they start before it and do not touch
it, none does: the lookup misses (`atSpan?_of_clears`), and so does every query that begins with it.

Before the first node there is no such bucket.  The search then falls back to the first start, where every entry lies
behind the selection and reaches its end all the same.  A selection there finds the shortest of the nodes that start
first (`exists_first_of_clears`).

`nodeAt?_of_clears` says for all selections which of the two happens.
-/
import SolidityNav.Navigation
import SolidityNav.Proofs.Index.Lookup
import SolidityNav.Proofs.Index.Merging
import SolidityNav.Proofs.Index.Arena

namespace SolidityNav

set_option autoImplicit false

open SolidityNav.Ast (Node NodeId RawNode)

/-! ## The spans of the structural nodes -/

namespace Ast.RawNode

def spans (root : RawNode) : List Span :=
  (root.postorder.filterMap span?).filter Span.isValid

theorem mem_spans {root : RawNode} {span : Span} :
    span ∈ root.spans ↔ ∃ raw ∈ root.postorder, raw.span? = some span ∧ span.isValid = true := by
  simp only [spans, List.mem_filter, List.mem_filterMap, ← exists_and_right, and_assoc]

/-- No valid span touches the bytes of `span`: each ends before them or starts behind them. -/
def Clears (root : RawNode) (span : Span) : Prop :=
  ∀ own ∈ root.spans, own.start.toInt + own.length.toInt < span.start.toInt ∨
    span.start.toInt + span.length.toInt < own.start.toInt

instance (root : RawNode) (span : Span) : Decidable (root.Clears span) :=
  inferInstanceAs (Decidable (∀ own ∈ root.spans, _))

/-- The span is a first one: none starts before it, and none with its start is shorter. -/
def StartsFirst (root : RawNode) (first : Span) : Prop :=
  first ∈ root.spans ∧ ∀ other ∈ root.spans,
    first.start ≤ other.start ∧ (other.start = first.start → first.length ≤ other.length)

end Ast.RawNode

namespace Index

theorem bounds_of_mem_spans {root : RawNode} {own : Span} (member : own ∈ root.spans) :
    0 ≤ own.start.toInt ∧ 0 ≤ own.length.toInt := by
  obtain ⟨-, -, -, valid⟩ := RawNode.mem_spans.mp member
  obtain ⟨start, length, -⟩ := Span.isValid_iff.mp valid
  exact ⟨start, length⟩

theorem mem_starts_index_iff_spans {root : RawNode} {start : Nat} :
    start ∈ root.index.offsets.starts ↔ ∃ own ∈ root.spans, own.start.toInt = start := by
  rw [mem_starts_index]
  constructor
  · rintro ⟨raw, member, own, read, valid, starts⟩
    exact ⟨own, RawNode.mem_spans.mpr ⟨raw, member, read, valid⟩, starts⟩
  · rintro ⟨own, member, starts⟩
    obtain ⟨raw, inTree, read, valid⟩ := RawNode.mem_spans.mp member
    exact ⟨raw, inTree, own, read, valid, starts⟩

theorem exists_span_of_mem_bucket {root : RawNode} {start : Nat} {entry : Entry}
    (member : entry ∈ root.index.offsets.bucket start) :
    ∃ own ∈ root.spans, own.start.toInt = start ∧ own.length.toInt = entry.length := by
  rw [bucket_index] at member
  obtain ⟨raw, inTree, filed⟩ := List.mem_filterMap.mp member
  obtain ⟨own, read, valid, starts, rfl⟩ := entryAt?_eq_some_iff.mp filed
  obtain ⟨-, length, -⟩ := Span.isValid_iff.mp valid
  exact ⟨own, RawNode.mem_spans.mpr ⟨raw, inTree, read, valid⟩, starts, (Int.toNat_of_nonneg length).symm⟩

theorem exists_entry_of_mem_spans {root : RawNode} {own : Span} (member : own ∈ root.spans) :
    ∃ entry ∈ root.index.offsets.bucket own.start.toInt.toNat, (entry.length : Int) = own.length.toInt := by
  obtain ⟨raw, inTree, read, valid⟩ := RawNode.mem_spans.mp member
  obtain ⟨start, length, -⟩ := Span.isValid_iff.mp valid
  refine ⟨⟨own.length.toInt.toNat, raw.id⟩, ?_, Int.toNat_of_nonneg length⟩
  rw [bucket_index]
  refine List.mem_filterMap.mpr ⟨raw, inTree, entryAt?_eq_some_iff.mpr ⟨own, read, valid, ?_, rfl⟩⟩
  exact (Int.toNat_of_nonneg start).symm

theorem mem_starts_of_mem_spans {root : RawNode} {own : Span} (member : own ∈ root.spans) :
    own.start.toInt.toNat ∈ root.index.offsets.starts := by
  have bounds := bounds_of_mem_spans member
  exact mem_starts_index_iff_spans.mpr ⟨own, member, by omega⟩

theorem exists_shortest?_of_mem_starts {root : RawNode} {start : Nat} (filed : start ∈ root.index.offsets.starts) :
    ∃ best, Entry.shortest? (root.index.offsets.bucket start) = some best := by
  obtain ⟨own, member, starts⟩ := mem_starts_index_iff_spans.mp filed
  obtain ⟨entry, inBucket, -⟩ := exists_entry_of_mem_spans member
  rw [starts, Int.toNat_natCast] at inBucket
  rw [← Option.ne_none_iff_exists', ne_eq, Entry.shortest?_eq_none_iff]
  exact List.ne_nil_of_mem inBucket

/-! ## Between the nodes -/

/-- **A span that touches no node is not found** when a node starts before it, and when there is no node at all. -/
theorem atSpan?_of_clears {root : RawNode} {span : Span} (forward : 0 ≤ span.length.toInt) (clears : root.Clears span)
    (preceded : root.spans = [] ∨ ∃ own ∈ root.spans, own.start ≤ span.start) :
    root.index.offsets.atSpan? span = none := by
  rw [OffsetIndex.atSpan?]
  cases ends : span.stop? with
  | none => rfl
  | some stop =>
      have sum := Span.stop?_eq_some_iff.mp ends
      apply OffsetIndex.tightest?_eq_none_iff.mpr
      intro start searched entry member
      obtain ⟨own, inSpans, starts, length⟩ := exists_span_of_mem_bucket member
      rcases preceded with nothing | ⟨first, inFirst, before⟩
      · rw [nothing] at inSpans
        cases inSpans
      · rw [Int64.le_iff_toInt_le] at before
        have firstBounds := bounds_of_mem_spans inFirst
        have filed := mem_starts_of_mem_spans inFirst
        have reached := (OffsetIndex.searchedStart?_greatest (starts_index_ascending root) searched filed (by omega)).1
        -- The node starts before the selection, so it is one of those that end before it.
        rcases clears own inSpans with ended | later
        · rw [decide_eq_false_iff_not]
          omega
        · omega

/-! ## Before the first node -/

/-- The shortest entry of a bucket belongs to the first node in postorder that has its start and its length. -/
theorem exists_first_of_shortest? {root : RawNode} {start : Nat} {best : Entry} (filed : start ∈ root.index.offsets.starts)
    (shortest : Entry.shortest? (root.index.offsets.bucket start) = some best) :
    ∃ first ∈ root.spans, first.start.toInt = start ∧ first.length.toInt = best.length ∧
      ∃ raw, root.postorder.find? (RawNode.hasExtent first) = some raw ∧ raw.id = best.id := by
  obtain ⟨first, inSpans, starts, length⟩ := exists_span_of_mem_bucket (Entry.mem_of_shortest? shortest)
  obtain ⟨holder, inTree, read, valid⟩ := RawNode.mem_spans.mp inSpans
  obtain ⟨stop, ends, sum⟩ := Span.exists_stop valid
  have searched : root.index.offsets.searchedStart? first.start.toInt.toNat = some start := by
    rw [starts, Int.toNat_natCast]
    exact OffsetIndex.searchedStart?_of_mem (starts_index_ascending root) filed
  -- The span itself is looked up in two ways: as the shortest entry, and as the span of a node.
  have byLength : root.index.offsets.atSpan? first = some best.id := by
    refine OffsetIndex.atSpan?_of_reached ends searched (fun entry member => ?_) shortest
    have shorter := Entry.length_le_of_shortest? shortest entry member
    omega
  have byNode := atSpan?_index valid inTree (RawNode.hasExtent_iff.mpr ⟨first, read, rfl, rfl⟩)
  rw [byLength] at byNode
  obtain ⟨raw, found, same⟩ := Option.map_eq_some_iff.mp byNode.symm
  exact ⟨first, inSpans, starts, length, raw, found, same⟩

/-- **A span before all nodes is found at the first node in postorder that has a first span.** -/
theorem exists_first_of_clears {root : RawNode} {span : Span} (forward : 0 ≤ span.length.toInt)
    (clears : root.Clears span) (nonempty : root.spans ≠ []) (leading : ∀ own ∈ root.spans, span.start < own.start) :
    ∃ first raw, root.StartsFirst first ∧ root.postorder.find? (RawNode.hasExtent first) = some raw ∧
      root.index.offsets.atSpan? span = some raw.id := by
  simp only [Int64.lt_iff_toInt_lt] at leading
  have behind : ∀ other ∈ root.index.offsets.starts, span.start.toInt.toNat ≤ other := by
    intro other member
    obtain ⟨own, inSpans, starts⟩ := mem_starts_index_iff_spans.mp member
    have := leading own inSpans
    omega
  obtain ⟨any, inSpans⟩ := List.exists_mem_of_ne_nil _ nonempty
  obtain ⟨start, searched⟩ := OffsetIndex.exists_searchedStart? (mem_starts_of_mem_spans inSpans) span.start.toInt.toNat
  have filed := OffsetIndex.mem_starts_of_searchedStart? searched
  obtain ⟨best, shortest⟩ := exists_shortest?_of_mem_starts filed
  obtain ⟨first, inFirst, starts, length, raw, found, same⟩ := exists_first_of_shortest? filed shortest
  have earliest : ∀ other ∈ root.spans, first.start ≤ other.start := by
    intro other member
    have least := OffsetIndex.searchedStart?_least (starts_index_ascending root) searched behind
      (mem_starts_of_mem_spans member)
    have bounds := bounds_of_mem_spans member
    rw [Int64.le_iff_toInt_le]
    omega
  have tightest : ∀ other ∈ root.spans, other.start = first.start → first.length ≤ other.length := by
    intro other member sameStart
    obtain ⟨entry, inBucket, sameLength⟩ := exists_entry_of_mem_spans member
    rw [sameStart, starts, Int.toNat_natCast] at inBucket
    have shorter := Entry.length_le_of_shortest? shortest entry inBucket
    rw [Int64.le_iff_toInt_le]
    omega
  -- The first node starts behind the end of the selection, so the end is a word and all nodes there reach it.
  have before : span.start.toInt + span.length.toInt < start := by
    have later := leading first inFirst
    have bounds := bounds_of_mem_spans inFirst
    have apart := clears first inFirst
    omega
  have high := first.start.toInt_lt
  obtain ⟨stop, ends, sum⟩ := Span.exists_stop_of_lt forward (by omega)
  refine ⟨first, raw, ⟨inFirst, fun other member => ⟨earliest other member, tightest other member⟩⟩, found, ?_⟩
  rw [same]
  refine OffsetIndex.atSpan?_of_reached ends searched (fun entry member => ?_) shortest
  omega

end Index

/-! ## The queries of a source file -/

namespace SourceFile

/-- A query that finds no node finds nothing. -/
theorem queries_of_nodeAt?_eq_none {file : SourceFile} {selection : Region} (missed : file.nodeAt? selection = none) :
    file.definitionAt? selection = none ∧ file.typeDefinitionAt? selection = none ∧
      file.signatureAt? selection = none ∧ file.referencesAt? selection = none := by
  simp [definitionAt?, typeDefinitionAt?, signatureAt?, referencesAt?, missed]

/-- **A selection that touches no node finds nothing**, unless it lies before all of them: then it finds what is stored under
the id of the first node in postorder that has a first span.  That is this node itself unless a merged index has its id. -/
theorem nodeAt?_of_clears {ast : Json} {own : Index} (built : Index.build ast = .ok own) (others : List Index)
    (file : SourceFile) (indexed : file.index = others.foldl Index.merge own) {selection : Region} {span : Span}
    (selected : file.span? selection = some span) (forward : 0 ≤ span.length) :
    ∃ root, RawNode.ofJson? ast = some root ∧ (root.Clears span →
      ((root.spans = [] ∨ ∃ own ∈ root.spans, own.start ≤ span.start) →
        file.nodeAt? selection = none ∧ file.definitionAt? selection = none ∧
          file.typeDefinitionAt? selection = none ∧ file.signatureAt? selection = none ∧
          file.referencesAt? selection = none) ∧
      (root.spans ≠ [] → (∀ own ∈ root.spans, span.start < own.start) →
        ∃ first raw node, root.StartsFirst first ∧ root.postorder.find? (RawNode.hasExtent first) = some raw ∧
          file.index.node? raw.id = some node ∧ file.nodeAt? selection = some node ∧
          ((∀ other ∈ others, own.Apart other) → own.node? raw.id = some node))) := by
  obtain ⟨root, read, filable, rfl⟩ := Index.build_eq_ok_iff.mp built
  rw [Int64.le_iff_toInt_le] at forward
  have looked : file.nodeAt? selection = (root.index.offsets.atSpan? span).bind file.index.node? := by
    rw [nodeAt?, selected, Option.bind_eq_bind, Option.bind_some, Index.atSpan?, indexed, Index.offsets_foldl_merge]
    rfl
  refine ⟨root, read, fun clears => ⟨fun preceded => ?_, fun nonempty leading => ?_⟩⟩
  · have missed : file.nodeAt? selection = none := by
      rw [looked, Index.atSpan?_of_clears forward clears preceded]
      rfl
    exact ⟨missed, queries_of_nodeAt?_eq_none missed⟩
  · obtain ⟨first, raw, startsFirst, found, hit⟩ := Index.exists_first_of_clears forward clears nonempty leading
    have filed := Index.mem_nodes_index filable (List.mem_of_find?_eq_some found)
    obtain ⟨node, held⟩ := Index.mem_nodes_iff.mp (Index.mem_nodes_foldl_merge filed others)
    refine ⟨first, raw, node, startsFirst, found, indexed ▸ held, ?_, fun apart => ?_⟩
    · rw [looked, hit, Option.bind_some, indexed, held]
    · obtain ⟨kept, stored⟩ := Index.mem_nodes_iff.mp filed
      rw [stored, ← Index.node?_foldl_merge_of_apart apart stored, held]

/-! ## A file that opens with a comment -/

/-- The AST of `commented`: a variable and its type, and the declaration of the type. -/
def commentedAst : Json :=
  .object [
    ("id", .int 9), ("nodeType", .string "SourceUnit"), ("src", .string "8:16:0"),
    ("nodes", .array [
      .object [
        ("id", .int 3), ("nodeType", .string "VariableDeclaration"), ("src", .string "8:3:0"), ("name", .string "t"),
        ("typeName", .object [
          ("id", .int 2), ("nodeType", .string "UserDefinedTypeName"), ("src", .string "8:1:0"),
          ("referencedDeclaration", .int 5)])],
      .object [
        ("id", .int 5), ("nodeType", .string "StructDefinition"), ("src", .string "13:11:0"), ("name", .string "T")]])]

def commentedText : String :=
  "// note\nT t;\nstruct T {}\n"

/-- A file whose nodes start in the second line. -/
def commented (index : Index) : SourceFile :=
  .make (.ofText "token.sol") commentedText "0.8.28" 0 [] 1 index

def comment : Region := ⟨⟨1, 1⟩, ⟨1, 8⟩⟩

def lastLine : Region := ⟨⟨4, 0⟩, ⟨4, 0⟩⟩

theorem commentedAst_build : ∃ own, Index.build commentedAst = .ok own :=
  Index.exists_of_isOk (by decide +kernel)

/-- The comment touches no node, and every query on it finds something. -/
theorem comment_not_missed :
    ∃ own root span, Index.build commentedAst = .ok own ∧ RawNode.ofJson? commentedAst = some root ∧
      (commented own).span? comment = some span ∧ 0 ≤ span.length ∧ root.Clears span ∧
      ((commented own).nodeAt? comment).isSome = true ∧ ((commented own).definitionAt? comment).isSome = true ∧
      ((commented own).typeDefinitionAt? comment).isSome = true ∧
      ((commented own).signatureAt? comment).isSome = true ∧ ((commented own).referencesAt? comment).isSome = true := by
  obtain ⟨own, built⟩ := commentedAst_build
  have computed : ∀ own ∈ (Index.build commentedAst).toOption, ∃ root ∈ RawNode.ofJson? commentedAst,
      ∃ span ∈ (commented own).span? comment, 0 ≤ span.length ∧ root.Clears span ∧
        ((commented own).nodeAt? comment).isSome = true ∧ ((commented own).definitionAt? comment).isSome = true ∧
        ((commented own).typeDefinitionAt? comment).isSome = true ∧
        ((commented own).signatureAt? comment).isSome = true ∧ ((commented own).referencesAt? comment).isSome = true := by
    decide +kernel
  rw [built] at computed
  obtain ⟨root, read, span, selected, facts⟩ := computed own rfl
  exact ⟨own, root, span, built, read, selected, facts⟩

/-- The last line of the commented file is missed, and its comment leads to the first node. -/
theorem nodeAt?_of_clears_commented :
    ∃ own root, Index.build commentedAst = .ok own ∧ RawNode.ofJson? commentedAst = some root ∧
      (commented own).nodeAt? lastLine = none ∧ (commented own).referencesAt? lastLine = none ∧
      ∃ first raw node, root.StartsFirst first ∧ root.postorder.find? (RawNode.hasExtent first) = some raw ∧
        own.node? raw.id = some node ∧ (commented own).nodeAt? comment = some node := by
  obtain ⟨own, built⟩ := commentedAst_build
  have behind : ∀ root ∈ RawNode.ofJson? commentedAst, root.Clears ⟨25, 0, 0⟩ ∧ ∃ own ∈ root.spans, own.start ≤ 25 := by
    decide +kernel
  have before : ∀ root ∈ RawNode.ofJson? commentedAst, root.Clears ⟨0, 7, 0⟩ ∧ root.spans ≠ [] ∧
      ∀ own ∈ root.spans, 0 < own.start := by
    decide +kernel
  have lastLineBytes : (LineTable.ofText commentedText).span? 1 0 lastLine = some ⟨25, 0, 0⟩ := by decide +kernel
  have commentBytes : (LineTable.ofText commentedText).span? 1 0 comment = some ⟨0, 7, 0⟩ := by decide +kernel
  obtain ⟨root, read, missing⟩ := nodeAt?_of_clears built [] (commented own) rfl lastLineBytes (by decide)
  obtain ⟨same, sameRead, finding⟩ := nodeAt?_of_clears built [] (commented own) rfl commentBytes (by decide)
  obtain rfl : root = same := Option.some.inj (read.symm.trans sameRead)
  obtain ⟨clearsBehind, preceded⟩ := behind root read
  obtain ⟨clearsBefore, nonempty, leading⟩ := before root read
  obtain ⟨missed, -, -, -, unreferenced⟩ := (missing clearsBehind).1 (Or.inr preceded)
  obtain ⟨first, raw, node, startsFirst, found, -, hit, kept⟩ := (finding clearsBefore).2 nonempty leading
  exact ⟨own, root, built, read, missed, unreferenced, first, raw, node, startsFirst, found, kept (by simp), hit⟩

end SourceFile

end SolidityNav
