/-
# Proofs.Index.Tightest -- what a lookup finds is tightest and innermost

A lookup looks into one bucket, the one of the greatest start not behind what is asked for, and takes the first of the
shortest entries that reach far enough (`Found`).  Two things follow that the lookup does not look for.

Where spans are nested or apart (`RawNode.Nested`), a node around the same bytes that starts earlier is longer.  So the
node that is found is the shortest of all nodes around these bytes, whatever their starts (`build_tightest`).  This is
said of nodes with valid spans, since no others are filed: a node that starts before the text may be shorter and is
still not found (`stray_passed_over`).

Nodes are filed in postorder, in which everything below a node stands before it.  So of nodes with one start and one
length the lowest is found (`build_innermost`).
-/
import Mathlib.Data.Set.Basic
import SolidityNav.Proofs.Gap
import SolidityNav.Proofs.Index.Closure

namespace SolidityNav

set_option autoImplicit false

open SolidityNav.Ast (Node RawNode)
open SolidityNav.Ast.RawNode (hasExtent)

/-! ## The bytes of a span -/

namespace Span

def bytes (span : Span) : Set Int :=
  { offset | span.start.toInt ≤ offset ∧ offset < span.start.toInt + span.length.toInt }

theorem mem_bytes {span : Span} {offset : Int} :
    offset ∈ span.bytes ↔ span.start.toInt ≤ offset ∧ offset < span.start.toInt + span.length.toInt :=
  Iff.rfl

/-- A span with bytes lies in another when its first and its last byte do. -/
theorem bytes_subset_iff {inner outer : Span} :
    inner.bytes ⊆ outer.bytes ↔ inner.length.toInt ≤ 0 ∨ (outer.start.toInt ≤ inner.start.toInt ∧
      inner.start.toInt + inner.length.toInt ≤ outer.start.toInt + outer.length.toInt) := by
  constructor
  · intro inside
    by_cases empty : inner.length.toInt ≤ 0
    · exact Or.inl empty
    · have first := inside (mem_bytes.mpr ⟨Int.le_refl inner.start.toInt, by omega⟩)
      have last : inner.start.toInt + inner.length.toInt - 1 ∈ outer.bytes :=
        inside (mem_bytes.mpr ⟨by omega, by omega⟩)
      rw [mem_bytes] at first last
      omega
  · intro bounds offset member
    rw [mem_bytes] at member ⊢
    omega

def NestedOrApart (first second : Span) : Prop :=
  first.bytes ⊆ second.bytes ∨ second.bytes ⊆ first.bytes ∨
    first.start.toInt + first.length.toInt ≤ second.start.toInt ∨
    second.start.toInt + second.length.toInt ≤ first.start.toInt

instance (inner outer : Span) : Decidable (inner.bytes ⊆ outer.bytes) :=
  decidable_of_iff _ bytes_subset_iff.symm

instance (first second : Span) : Decidable (first.NestedOrApart second) :=
  inferInstanceAs (Decidable (_ ∨ _ ∨ _ ∨ _))

def Encloses (outer inner : Span) : Prop :=
  outer.start.toInt ≤ inner.start.toInt ∧
    inner.start.toInt + inner.length.toInt ≤ outer.start.toInt + outer.length.toInt

instance (outer inner : Span) : Decidable (outer.Encloses inner) :=
  inferInstanceAs (Decidable (_ ∧ _))

/-- **Of two spans around one byte the one that starts earlier is the longer one.** -/
theorem NestedOrApart.length_le {early late : Span} (nested : early.NestedOrApart late)
    (before : early.start.toInt < late.start.toInt) {offset : Int} (inEarly : offset ∈ early.bytes)
    (inLate : offset ∈ late.bytes) : late.length.toInt ≤ early.length.toInt := by
  rw [mem_bytes] at inEarly inLate
  simp only [NestedOrApart, bytes_subset_iff] at nested
  omega

/-- A valid span contains the words that are its bytes. -/
theorem contains_toInt64_iff {span : Span} (valid : span.isValid = true) {offset : UInt64} :
    span.contains offset.toInt64 = true ↔ (offset.toNat : Int) ∈ span.bytes := by
  obtain ⟨start, -, fits⟩ := isValid_iff.mp valid
  obtain ⟨stop, ends, sum⟩ := exists_stop valid
  have low := offset.toNat_lt
  rw [contains, ends, mem_bytes]
  simp only [Bool.and_eq_true, decide_eq_true_eq, Int64.le_iff_toInt_le, Int64.lt_iff_toInt_lt, Word.toInt_toInt64]
  split <;> omega

end Span

namespace Ast.RawNode

/-- Any two valid spans of structural nodes are nested or apart. -/
def Nested (root : RawNode) : Prop :=
  ∀ first ∈ root.spans, ∀ second ∈ root.spans, first.NestedOrApart second

instance (root : RawNode) : Decidable root.Nested :=
  inferInstanceAs (Decidable (∀ first ∈ root.spans, ∀ second ∈ root.spans, _))

end Ast.RawNode

namespace Index

/-! ## What a lookup finds -/

/-- The node `raw`, indexed as `node`, is what a lookup in the bucket of `start` finds that asks for ends which `reaches`
accepts. -/
structure Found (root : RawNode) (start : Nat) (reaches : Int → Bool) (raw : RawNode) (node : Node) : Prop where
  /-- No node before it in postorder has its start and its length. -/
  first : root.postorder.find? (hasExtent node.src) = some raw
  stored : root.index.node? raw.id = some node
  id : node.id = raw.id
  read : raw.span? = some node.src
  valid : node.src.isValid = true
  starts : node.src.start.toInt = start
  reached : reaches (start + node.src.length.toInt) = true
  /-- No node of the bucket that reaches far enough is shorter. -/
  shortest : ∀ own ∈ root.spans, own.start.toInt = start → reaches (start + own.length.toInt) = true →
    node.src.length.toInt ≤ own.length.toInt

section Filable

variable {root : RawNode} (filable : root.Filable)
include filable

/-- The node of a lookup is found in the bucket of the start that is searched. -/
theorem exists_found_of_tightest? {offset : Nat} {covers : Nat → Entry → Bool} {reaches : Int → Bool}
    (same : ∀ (start : Nat) (entry : Entry), covers start entry = reaches ((start : Int) + entry.length)) {node : Node}
    (answer : (root.index.offsets.tightest? offset covers).bind root.index.node? = some node) :
    ∃ start raw, root.index.offsets.searchedStart? offset = some start ∧ Found root start reaches raw node := by
  obtain ⟨id, looked, held⟩ := Option.bind_eq_some_iff.mp answer
  simp only [OffsetIndex.tightest?, Option.bind_eq_bind, Option.bind_eq_some_iff, Option.pure_def,
    Option.some.injEq] at looked
  obtain ⟨start, searched, best, shortest, rfl⟩ := looked
  have measured : ∀ first second : Entry, first.length = second.length → covers start first = covers start second := by
    intro first second sameLength
    rw [same, same, sameLength]
  -- Whether an entry reaches far enough hangs on its length, so no entry of this length stands before the answer.
  have first := Entry.find?_of_shortest?_filter measured shortest
  rw [bucket_index, List.find?_filterMap] at first
  obtain ⟨raw, found, filed⟩ := Option.bind_eq_some_iff.mp first
  obtain ⟨src, read, valid, starts, rfl⟩ := entryAt?_eq_some_iff.mp filed
  obtain ⟨-, length, -⟩ := Span.isValid_iff.mp valid
  have own := (List.mem_filter.mp (Entry.mem_of_shortest? shortest)).2
  rw [same] at own
  obtain ⟨stored, isStored, sameId, -, srcStored, -⟩ :=
    (faithful_index filable).stored raw (List.mem_of_find?_eq_some found)
  obtain rfl : stored = node := Option.some.inj (isStored.symm.trans held)
  obtain rfl : src = stored.src := Option.some.inj (read.symm.trans srcStored)
  obtain rfl : start = stored.src.start.toInt.toNat := by omega
  simp only [any_entryAt? valid] at found
  refine ⟨_, raw, searched, found, held, sameId, read, valid, starts, ?_, fun other inSpans startsHere reached => ?_⟩
  · rwa [Int.toNat_of_nonneg length] at own
  · obtain ⟨entry, inBucket, sameLength⟩ := exists_entry_of_mem_spans inSpans
    have atStart : other.start.toInt.toNat = stored.src.start.toInt.toNat := by omega
    rw [atStart] at inBucket
    have kept := List.mem_filter.mpr ⟨inBucket, (same _ entry).trans (sameLength ▸ reached)⟩
    have shorter := Entry.length_le_of_shortest? shortest entry kept
    dsimp only at shorter
    omega

theorem exists_found_of_atOffset? {offset : Nat} {node : Node} (answer : root.index.atOffset? offset = some node) :
    ∃ start raw, root.index.offsets.searchedStart? offset = some start ∧
      Found root start (fun stop => (offset : Int) < stop) raw node := by
  apply exists_found_of_tightest? filable _ answer
  intro start entry
  rw [decide_eq_decide]
  omega

/-- A lookup by span asks for the end of the span, which is a word. -/
theorem exists_found_of_atSpan? {span : Span} {node : Node} (answer : root.index.atSpan? span = some node) :
    ∃ start raw, root.index.offsets.searchedStart? span.start.toInt.toNat = some start ∧
      Found root start (fun stop => span.start.toInt + span.length.toInt ≤ stop) raw node := by
  rw [atSpan?, OffsetIndex.atSpan?] at answer
  cases ends : span.stop? with
  | none =>
      rw [ends] at answer
      cases answer
  | some stop =>
      rw [ends] at answer
      rw [← Span.stop?_eq_some_iff.mp ends]
      exact exists_found_of_tightest? filable (fun _ _ => rfl) answer

end Filable

/-! ## The tightest node -/

/-- The answer to a lookup at `offset` is the tightest of the nodes whose spans are `around` what is asked for. -/
structure Tight (root : RawNode) (offset : Int) (around : Span → Prop) (answer : Option Node) : Prop where
  /-- There is an answer just when, of all nodes that start up to the offset, a node around starts last. -/
  found : answer.isSome = true ↔ ∃ own ∈ root.spans, around own ∧
    ∀ other ∈ root.spans, other.start.toInt ≤ offset → other.start.toInt ≤ own.start.toInt
  real : ∀ node ∈ answer, ∃ raw ∈ root.postorder, raw.id = node.id ∧ raw.span? = some node.src
  fits : ∀ node ∈ answer, around node.src
  /-- No node around is shorter, wherever it starts. -/
  shortest : ∀ node ∈ answer, ∀ own ∈ root.spans, around own → node.src.length ≤ own.length

/-- A lookup may miss when nothing is around what it asks for. -/
theorem tight_none {root : RawNode} {offset : Int} {around : Span → Prop}
    (nothing : ∀ own ∈ root.spans, ¬ around own) : Tight root offset around none where
  found := by
    constructor
    · intro impossible
      cases impossible
    · rintro ⟨own, member, isAround, -⟩
      exact absurd isAround (nothing own member)
  real := by simp
  fits := by simp
  shortest := by simp

theorem Found.mem_postorder {root : RawNode} {start : Nat} {reaches : Int → Bool} {raw : RawNode} {node : Node}
    (found : Found root start reaches raw node) : raw ∈ root.postorder :=
  List.mem_of_find?_eq_some found.first

theorem Found.src_mem_spans {root : RawNode} {start : Nat} {reaches : Int → Bool} {raw : RawNode} {node : Node}
    (found : Found root start reaches raw node) : node.src ∈ root.spans :=
  RawNode.mem_spans.mpr ⟨raw, found.mem_postorder, found.read, found.valid⟩

theorem exists_least_start {root : RawNode} {own : Span} (member : own ∈ root.spans) :
    ∃ least, root.index.offsets.starts.toList.min? = some least :=
  Option.isSome_iff_exists.mp (List.isSome_min?_of_mem (mem_starts_of_mem_spans member).val)

/-- The searched start is the last one up to the offset, unless all starts are behind the offset. -/
theorem searchedStart?_index_last {root : RawNode} {offset start : Nat}
    (preceded : ∀ least ∈ root.index.offsets.starts.toList.min?, least ≤ offset)
    (searched : root.index.offsets.searchedStart? offset = some start) :
    start ≤ offset ∧ ∀ other ∈ root.spans, other.start.toInt ≤ offset → other.start.toInt ≤ start := by
  have ascending := starts_index_ascending root
  obtain ⟨own, filed, -⟩ := mem_starts_index_iff_spans.mp (OffsetIndex.mem_starts_of_searchedStart? searched)
  obtain ⟨least, isLeast⟩ := exists_least_start filed
  have inStarts : least ∈ root.index.offsets.starts := Array.mem_toList_iff.mp (List.min?_mem isLeast)
  refine ⟨(OffsetIndex.searchedStart?_greatest ascending searched inStarts (preceded least isLeast)).1, ?_⟩
  intro other member before
  have bounds := bounds_of_mem_spans member
  have greatest := OffsetIndex.searchedStart?_greatest ascending searched (mem_starts_of_mem_spans member) (by omega)
  omega

/-- A node is found when one that reaches far enough starts last of all nodes that start up to the offset. -/
theorem isSome_of_last {root : RawNode} (filable : root.Filable) {offset : Nat} {covers : Nat → Entry → Bool}
    {reaches : Int → Bool}
    (same : ∀ (start : Nat) (entry : Entry), covers start entry = reaches ((start : Int) + entry.length)) {own : Span}
    (member : own ∈ root.spans) (before : own.start.toInt ≤ offset)
    (reached : reaches (own.start.toInt + own.length.toInt) = true)
    (last : ∀ other ∈ root.spans, other.start.toInt ≤ offset → other.start.toInt ≤ own.start.toInt) :
    ((root.index.offsets.tightest? offset covers).bind root.index.node?).isSome = true := by
  have bounds := bounds_of_mem_spans member
  have filed := mem_starts_of_mem_spans member
  obtain ⟨start, searched⟩ := OffsetIndex.exists_searchedStart? filed offset
  obtain ⟨notBehind, greatest⟩ :=
    OffsetIndex.searchedStart?_greatest (starts_index_ascending root) searched filed (by omega)
  obtain ⟨other, inSpans, starts⟩ :=
    mem_starts_index_iff_spans.mp (OffsetIndex.mem_starts_of_searchedStart? searched)
  have notLater := last other inSpans (by omega)
  obtain rfl : start = own.start.toInt.toNat := by omega
  obtain ⟨entry, inBucket, length⟩ := exists_entry_of_mem_spans member
  rw [Closed.isSome_bind_node? fun id => (closed_index filable).mem_nodes_of_tightest?, Option.isSome_iff_ne_none]
  intro missed
  have short := OffsetIndex.tightest?_eq_none_iff.mp missed _ searched entry inBucket
  rw [same, length, Int.toNat_of_nonneg bounds.1, reached] at short
  cases short

section Lookups

variable {root : RawNode} (filable : root.Filable)
include filable

section Asked

variable {offset : Nat} {covers : Nat → Entry → Bool} (reaches : Int → Bool) {around : Span → Prop}
  (same : ∀ (start : Nat) (entry : Entry), covers start entry = reaches ((start : Int) + entry.length))
  (preceded : ∀ least ∈ root.index.offsets.starts.toList.min?, least ≤ offset)
  (meaning : ∀ own ∈ root.spans,
    around own ↔ own.start.toInt ≤ offset ∧ reaches (own.start.toInt + own.length.toInt) = true)
include same preceded meaning

/-- The node that is found is around what is asked for, and no node starts between it and the offset. -/
theorem exists_found_around {node : Node}
    (answer : (root.index.offsets.tightest? offset covers).bind root.index.node? = some node) :
    ∃ start raw, Found root start reaches raw node ∧ around node.src ∧
      ∀ other ∈ root.spans, other.start.toInt ≤ offset → other.start.toInt ≤ node.src.start.toInt := by
  obtain ⟨start, raw, searched, found⟩ := exists_found_of_tightest? filable same answer
  obtain ⟨before, last⟩ := searchedStart?_index_last preceded searched
  have starts := found.starts
  refine ⟨start, raw, found, (meaning _ found.src_mem_spans).mpr ⟨by omega, ?_⟩, ?_⟩
  · rw [starts]
    exact found.reached
  · rw [starts]
    exact last

/-- **A lookup in one bucket gives the tightest node of all**, when what it asks for goes beyond the offset. -/
theorem tight_tightest? (nested : root.Nested) (beyond : ∀ stop, reaches stop = true → (offset : Int) < stop) :
    Tight root offset around ((root.index.offsets.tightest? offset covers).bind root.index.node?) where
  found := by
    constructor
    · intro answered
      obtain ⟨node, answer⟩ := Option.isSome_iff_exists.mp answered
      obtain ⟨_, _, found, isAround, last⟩ := exists_found_around filable reaches same preceded meaning answer
      exact ⟨node.src, found.src_mem_spans, isAround, last⟩
    · rintro ⟨own, member, isAround, last⟩
      obtain ⟨before, reached⟩ := (meaning own member).mp isAround
      exact isSome_of_last filable same member before reached last
  real := by
    intro node answer
    obtain ⟨_, raw, found, -, -⟩ := exists_found_around filable reaches same preceded meaning answer
    exact ⟨raw, found.mem_postorder, found.id.symm, found.read⟩
  fits := by
    intro node answer
    obtain ⟨_, _, -, isAround, -⟩ := exists_found_around filable reaches same preceded meaning answer
    exact isAround
  shortest := by
    intro node answer own member isOwnAround
    obtain ⟨start, raw, found, isAround, last⟩ := exists_found_around filable reaches same preceded meaning answer
    obtain ⟨before, reached⟩ := (meaning _ found.src_mem_spans).mp isAround
    obtain ⟨ownBefore, ownReached⟩ := (meaning own member).mp isOwnAround
    rw [Int64.le_iff_toInt_le]
    by_cases here : own.start.toInt = node.src.start.toInt
    · have starts := here.trans found.starts
      exact found.shortest own member starts (starts ▸ ownReached)
    · -- Both go beyond the offset, so they share the byte there and are nested.
      have earlier := Int.lt_iff_le_and_ne.mpr ⟨last own member ownBefore, here⟩
      exact (nested own member node.src found.src_mem_spans).length_le earlier
        (Span.mem_bytes.mpr ⟨ownBefore, beyond _ ownReached⟩) (Span.mem_bytes.mpr ⟨before, beyond _ reached⟩)

end Asked

theorem tight_atOffset? (nested : root.Nested) {offset : UInt64}
    (preceded : ∀ least ∈ root.index.offsets.starts.toList.min?, least ≤ offset.toNat) :
    Tight root offset.toNat (fun own => own.contains offset.toInt64 = true) (root.index.atOffset? offset.toNat) := by
  have same : ∀ (start : Nat) (entry : Entry),
      decide (offset.toNat < start + entry.length) = decide ((offset.toNat : Int) < (start : Int) + entry.length) := by
    intro start entry
    rw [decide_eq_decide]
    omega
  have meaning : ∀ own ∈ root.spans, own.contains offset.toInt64 = true ↔ own.start.toInt ≤ offset.toNat ∧
      decide ((offset.toNat : Int) < own.start.toInt + own.length.toInt) = true := by
    intro own member
    obtain ⟨-, -, -, valid⟩ := RawNode.mem_spans.mp member
    rw [Span.contains_toInt64_iff valid, Span.mem_bytes, decide_eq_true_eq]
  exact tight_tightest? filable (fun stop => (offset.toNat : Int) < stop) same preceded meaning nested
    fun stop => of_decide_eq_true

theorem tight_atSpan? (nested : root.Nested) {span : Span} (forward : 0 < span.length.toInt)
    (preceded : ∀ least ∈ root.index.offsets.starts.toList.min?, (least : Int) ≤ span.start.toInt) :
    Tight root span.start.toInt (fun own => own.Encloses span) (root.index.atSpan? span) := by
  by_cases empty : root.spans = []
  · have missed : root.index.atSpan? span = none := by
      rw [Option.eq_none_iff_forall_ne_some]
      intro node answer
      obtain ⟨start, raw, -, found⟩ := exists_found_of_atSpan? filable answer
      exact List.ne_nil_of_mem found.src_mem_spans empty
    rw [missed]
    exact tight_none (by simp [empty])
  obtain ⟨first, filed⟩ := List.exists_mem_of_ne_nil root.spans empty
  obtain ⟨least, isLeast⟩ := exists_least_start filed
  have notBefore := preceded least isLeast
  have start : (span.start.toInt.toNat : Int) = span.start.toInt := Int.toNat_of_nonneg (by omega)
  cases ends : span.stop? with
  | none =>
      rw [atSpan?, OffsetIndex.atSpan?, ends]
      refine tight_none fun own member encloses => ?_
      -- The end of a valid span is a word, and an end before it is a word too.
      obtain ⟨-, -, -, valid⟩ := RawNode.mem_spans.mp member
      obtain ⟨-, -, fits⟩ := Span.isValid_iff.mp valid
      have reach := encloses.2
      obtain ⟨stop, isStop, -⟩ := Span.exists_stop_of_lt (Int.le_of_lt forward) (by omega)
      rw [ends] at isStop
      cases isStop
  | some stop =>
      have sum := Span.stop?_eq_some_iff.mp ends
      rw [atSpan?, OffsetIndex.atSpan?, ends, ← start]
      have preceding : ∀ least ∈ root.index.offsets.starts.toList.min?, least ≤ span.start.toInt.toNat := by
        intro other isOther
        have := preceded other isOther
        omega
      have meaning : ∀ own ∈ root.spans, own.Encloses span ↔ own.start.toInt ≤ span.start.toInt.toNat ∧
          decide (stop.toInt ≤ own.start.toInt + own.length.toInt) = true := by
        intro own _
        rw [Span.Encloses, decide_eq_true_eq, sum, start]
      refine tight_tightest? filable (fun reached => stop.toInt ≤ reached) (fun _ _ => rfl) preceding meaning nested ?_
      intro reached enough
      have enough := of_decide_eq_true enough
      omega

end Lookups

/-- **In nested code a lookup finds the tightest node of all around what is asked for**, or nothing. -/
theorem build_tightest {ast : Json} {index : Index} (built : build ast = .ok index) :
    ∃ root, RawNode.ofJson? ast = some root ∧ (root.Nested →
      (∀ offset : UInt64, (∀ least ∈ index.offsets.starts.toList.min?, least ≤ offset.toNat) →
        Tight root offset.toNat (fun own => own.contains offset.toInt64 = true) (index.atOffset? offset.toNat)) ∧
      ∀ span : Span, 0 < span.length.toInt →
        (∀ least ∈ index.offsets.starts.toList.min?, (least : Int) ≤ span.start.toInt) →
        Tight root span.start.toInt (fun own => own.Encloses span) (index.atSpan? span)) := by
  obtain ⟨root, read, filable, rfl⟩ := build_eq_ok_iff.mp built
  refine ⟨root, read, fun nested => ⟨fun offset preceded => ?_, fun span forward preceded => ?_⟩⟩
  · exact tight_atOffset? filable nested preceded
  · exact tight_atSpan? filable nested forward preceded

/-- At the last token of the sample the identifier is found, which lies in the root and starts behind it. -/
theorem build_tightest_sample :
    ∃ index root, build sampleAst = .ok index ∧ RawNode.ofJson? sampleAst = some root ∧ root.Nested ∧
      index.offsets.starts.toList.min? = some 0 ∧
      Tight root 8 (fun own => own.contains 8 = true) (index.atOffset? 8) ∧
      (index.atOffset? 8).map Node.id = some 5 ∧
      Tight root 8 (fun own => own.Encloses ⟨8, 1, 0⟩) (index.atSpan? ⟨8, 1, 0⟩) ∧
      (index.atSpan? ⟨8, 1, 0⟩).map Node.id = some 5 := by
  obtain ⟨index, built⟩ := sampleAst_build
  obtain ⟨root, read, tight⟩ := build_tightest built
  have nested : ∀ root ∈ RawNode.ofJson? sampleAst, root.Nested := by decide +kernel
  have computed : ∀ index ∈ (build sampleAst).toOption, index.offsets.starts.toList.min? = some 0 ∧
      (index.atOffset? 8).map Node.id = some 5 ∧ (index.atSpan? ⟨8, 1, 0⟩).map Node.id = some 5 := by
    decide +kernel
  rw [built] at computed
  obtain ⟨least, byOffset, bySpan⟩ := computed index rfl
  obtain ⟨tightOffset, tightSpan⟩ := tight (nested root read)
  exact ⟨index, root, built, read, nested root read, least, tightOffset 8 (by simp [least]), byOffset,
    tightSpan ⟨8, 1, 0⟩ (by decide) (by simp [least]), bySpan⟩

/-- A block that starts before the text, in a root that is one byte longer. -/
def strayAst : Json :=
  .object [
    ("id", .int 1), ("nodeType", .string "SourceUnit"), ("src", .string "0:9:0"),
    ("nodes", .array [.object [("id", .int 2), ("nodeType", .string "Block"), ("src", .string "-5:8:0")]])]

/-- The block is around the second byte and shorter than the root, and yet the root is found there. -/
theorem stray_passed_over :
    ∃ index root atByte around, build strayAst = .ok index ∧ RawNode.ofJson? strayAst = some root ∧ root.Nested ∧
      (∀ least ∈ index.offsets.starts.toList.min?, least ≤ 1) ∧
      index.atOffset? 1 = some atByte ∧ index.atSpan? ⟨1, 1, 0⟩ = some around ∧
      ∃ raw ∈ root.postorder, ∃ own ∈ raw.span?, own.contains 1 = true ∧ own.length < atByte.src.length ∧
        own.Encloses ⟨1, 1, 0⟩ ∧ own.length < around.src.length := by
  obtain ⟨index, built⟩ : ∃ index, build strayAst = .ok index := exists_of_isOk (by decide +kernel)
  have block : ∀ root ∈ RawNode.ofJson? strayAst, root.Nested ∧ ∃ raw ∈ root.postorder, ∃ own ∈ raw.span?,
      own.contains 1 = true ∧ own.Encloses ⟨1, 1, 0⟩ ∧ own.length = 8 := by
    decide +kernel
  have lookups : ∀ index ∈ (build strayAst).toOption, (∀ least ∈ index.offsets.starts.toList.min?, least ≤ 1) ∧
      ∃ atByte ∈ index.atOffset? 1, ∃ around ∈ index.atSpan? ⟨1, 1, 0⟩,
        8 < atByte.src.length ∧ 8 < around.src.length := by
    decide +kernel
  rw [built] at lookups
  obtain ⟨preceded, atByte, found, around, surrounding, byteLonger, longer⟩ := lookups index rfl
  obtain ⟨root, read, -⟩ := build_eq_ok_iff.mp built
  obtain ⟨nested, raw, inTree, own, isOwn, contains, encloses, length⟩ := block root read
  exact ⟨index, root, atByte, around, built, read, nested, preceded, found, surrounding, raw, inTree, own, isOwn,
    contains, length ▸ byteLonger, encloses, length ▸ longer⟩

/-! ## The innermost node -/

def Finds (index : Index) (node : Node) : Prop :=
  (∃ offset, index.atOffset? offset = some node) ∨ ∃ span, index.atSpan? span = some node

theorem exists_found_of_finds {root : RawNode} (filable : root.Filable) {node : Node}
    (finds : root.index.Finds node) : ∃ start reaches raw, Found root start reaches raw node := by
  rcases finds with ⟨offset, answer⟩ | ⟨span, answer⟩
  · obtain ⟨start, raw, -, found⟩ := exists_found_of_atOffset? filable answer
    exact ⟨start, _, raw, found⟩
  · obtain ⟨start, raw, -, found⟩ := exists_found_of_atSpan? filable answer
    exact ⟨start, _, raw, found⟩

theorem hasExtent_eq_of_same {first second : Span} (start : first.start = second.start)
    (length : first.length = second.length) : hasExtent first = hasExtent second := by
  funext raw
  rw [hasExtent, hasExtent, start, length]

section Distinct

variable {root : RawNode} (filable : root.Filable)
include filable

theorem postorder_nodup : root.postorder.Nodup :=
  filable.distinct.of_map RawNode.id

/-- **The first node of an extent has no node of that extent below it.** -/
theorem hasExtent_below_first {span : Span} {first low : RawNode}
    (found : root.postorder.find? (hasExtent span) = some first) (above : first.Above low) :
    low.hasExtent span = false := by
  obtain ⟨-, front, back, split, others⟩ := List.find?_eq_some_iff_append.mp found
  have before := RawNode.mem_front_of_above (postorder_nodup filable) split above
  simpa using others low before

/-- When a node and one below it are all that have an extent, the lower one is the first. -/
theorem find?_hasExtent_inner {outer inner : RawNode} (member : outer ∈ root.postorder) (above : outer.Above inner)
    {span : Span} (extent : inner.hasExtent span = true)
    (only : ∀ other ∈ root.postorder, other.hasExtent span = true → other.id = outer.id ∨ other.id = inner.id) :
    root.postorder.find? (hasExtent span) = some inner := by
  have inside := RawNode.mem_postorder_of_above member above
  have unique := List.inj_on_of_nodup_map filable.distinct
  obtain ⟨first, found⟩ := Option.isSome_iff_exists.mp (List.find?_isSome.mpr ⟨inner, inside, extent⟩)
  have inTree := List.mem_of_find?_eq_some found
  rcases only first inTree (List.find?_some found) with isOuter | isInner
  · obtain rfl := unique inTree member isOuter
    rw [hasExtent_below_first filable found above] at extent
    cases extent
  · obtain rfl := unique inTree inside isInner
    exact found

end Distinct

/-- Of nodes with one start and one length, lookups find the lowest. -/
structure Innermost (root : RawNode) (index : Index) : Prop where
  lowest : ∀ node, index.Finds node → ∃ raw ∈ root.postorder, index.node? raw.id = some node ∧
    raw.span? = some node.src ∧ ∀ low, raw.Above low → low.hasExtent node.src = false
  /-- Of two such nodes, one below the other, the lower one is found at their bytes. -/
  inner : ∀ outer ∈ root.postorder, ∀ inner, outer.Above inner → ∀ span, outer.span? = some span →
    span.isValid = true → inner.hasExtent span = true →
    (∀ other ∈ root.postorder, other.hasExtent span = true → other.id = outer.id ∨ other.id = inner.id) →
    ∃ node, index.node? inner.id = some node ∧ index.atSpan? span = some node ∧
      ∀ other, index.Finds other → other.src.start = span.start → other.src.length = span.length → other = node

theorem innermost_index {root : RawNode} (filable : root.Filable) : Innermost root root.index where
  lowest := by
    intro node finds
    obtain ⟨start, reaches, raw, found⟩ := exists_found_of_finds filable finds
    exact ⟨raw, found.mem_postorder, found.stored, found.read, fun low => hasExtent_below_first filable found.first⟩
  inner := by
    intro outer member inner above span read valid extent only
    have first := find?_hasExtent_inner filable member above extent only
    have inside := RawNode.mem_postorder_of_above member above
    obtain ⟨node, stored, -⟩ := (faithful_index filable).stored inner inside
    refine ⟨node, stored, ?_, fun other finds start length => ?_⟩
    · rw [atSpan?, atSpan?_index valid inside extent, first]
      exact stored
    · obtain ⟨_, _, raw, found⟩ := exists_found_of_finds filable finds
      have sameFirst := found.first
      rw [hasExtent_eq_of_same start length, first] at sameFirst
      cases sameFirst
      exact Option.some.inj (found.stored.symm.trans stored)

/-- **Of nodes with the same bytes a lookup in a built index finds the innermost.** -/
theorem build_innermost {ast : Json} {index : Index} (built : build ast = .ok index) :
    ∃ root, RawNode.ofJson? ast = some root ∧ Innermost root index := by
  obtain ⟨root, read, filable, rfl⟩ := build_eq_ok_iff.mp built
  exact ⟨root, read, innermost_index filable⟩

/-- A declaration without a name, which has the bytes of its type. -/
def unnamedAst : Json :=
  .object [
    ("id", .int 9), ("nodeType", .string "SourceUnit"), ("src", .string "0:6:0"),
    ("nodes", .array [
      .object [
        ("id", .int 3), ("nodeType", .string "VariableDeclaration"), ("src", .string "0:4:0"), ("name", .string ""),
        ("typeName", .object [
          ("id", .int 2), ("nodeType", .string "ElementaryTypeName"), ("src", .string "0:4:0")])]])]

/-- The type is found, by its bytes and at each of them. -/
theorem build_innermost_unnamed :
    ∃ index root outer inner node, build unnamedAst = .ok index ∧ RawNode.ofJson? unnamedAst = some root ∧
      outer ∈ root.postorder ∧ outer.id = 3 ∧ inner.id = 2 ∧ outer.Above inner ∧ Innermost root index ∧
      index.node? 2 = some node ∧ index.atSpan? ⟨0, 4, 0⟩ = some node ∧ index.atOffset? 3 = some node := by
  obtain ⟨index, built⟩ : ∃ index, build unnamedAst = .ok index := exists_of_isOk (by decide +kernel)
  obtain ⟨root, read, innermost⟩ := build_innermost built
  have shape : ∀ root ∈ RawNode.ofJson? unnamedAst, ∃ outer ∈ root.postorder, ∃ inner ∈ outer.children.map Prod.snd,
      outer.id = 3 ∧ inner.id = 2 ∧ outer.span? = some ⟨0, 4, 0⟩ ∧ inner.hasExtent ⟨0, 4, 0⟩ = true ∧
      ∀ other ∈ root.postorder, other.hasExtent ⟨0, 4, 0⟩ = true → other.id = outer.id ∨ other.id = inner.id := by
    decide +kernel
  have computed : ∀ index ∈ (build unnamedAst).toOption, ∃ node ∈ index.atOffset? 3,
      node.src.start = 0 ∧ node.src.length = 4 := by
    decide +kernel
  rw [built] at computed
  obtain ⟨found, isFound, start, length⟩ := computed index rfl
  obtain ⟨outer, inTree, inner, isChild, outerId, innerId, outerSpan, extent, only⟩ := shape root read
  have above : outer.Above inner := .single isChild
  obtain ⟨node, stored, bySpan, others⟩ :=
    innermost.inner outer inTree inner above ⟨0, 4, 0⟩ outerSpan (by decide) extent only
  obtain rfl := others found (.inl ⟨3, isFound⟩) start length
  exact ⟨index, root, outer, inner, found, built, read, inTree, outerId, innerId, above, innermost, innerId ▸ stored,
    bySpan, isFound⟩

end Index

end SolidityNav
