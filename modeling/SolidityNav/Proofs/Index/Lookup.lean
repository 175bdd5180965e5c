/-
# Proofs.Index.Lookup -- asking for a span finds the first node that has it

A lookup searches the starts, filters one bucket and takes the shortest entry left.  When a node has exactly the span
that is asked for, the search ends at its start and no entry that reaches far enough is shorter, so the answer is the
first node in postorder with that start and that length (`atSpan?_index`).

For other spans it depends on the starts.  The search ends at the greatest start that is not behind the offset
(`searchedStart?_greatest`), and at the least one when they are all behind it (`searchedStart?_least`).
-/
import SolidityNav.Proofs.Index.Coverage
import SolidityNav.Proofs.LowerBound
import Mathlib.Order.Nat

namespace SolidityNav

set_option autoImplicit false

open SolidityNav.Ast (NodeId RawNode)

/-- Whether the node has the start and the length of a span, in whatever file. -/
def Ast.RawNode.hasExtent (span : Span) (raw : RawNode) : Bool :=
  match raw.span? with
  | some own => own.start = span.start ∧ own.length = span.length
  | none => false

theorem Ast.RawNode.hasExtent_iff {span : Span} {raw : RawNode} :
    raw.hasExtent span = true ↔
      ∃ own, raw.span? = some own ∧ own.start = span.start ∧ own.length = span.length := by
  unfold hasExtent
  cases raw.span? <;> simp

namespace Index

/-! ## The shortest entry -/

theorem Entry.mem_of_shortest? {entries : List Entry} {best : Entry} (found : shortest? entries = some best) :
    best ∈ entries := by
  induction entries generalizing best with
  | nil => cases found
  | cons entry rest ih =>
      rw [shortest?] at found
      split at found
      · rename_i other inRest
        split at found <;> cases found
        · exact List.mem_cons_of_mem entry (ih inRest)
        · exact List.mem_cons_self
      · cases found
        exact List.mem_cons_self

theorem Entry.shortest?_eq_none_iff {entries : List Entry} : shortest? entries = none ↔ entries = [] := by
  cases entries with
  | nil => simp [shortest?]
  | cons entry rest =>
      rw [shortest?]
      split
      · split <;> simp
      · simp

theorem Entry.length_le_of_shortest? {entries : List Entry} {best : Entry} (found : shortest? entries = some best) :
    ∀ entry ∈ entries, best.length ≤ entry.length := by
  induction entries generalizing best with
  | nil => cases found
  | cons first rest ih =>
      rw [shortest?] at found
      split at found
      · rename_i other inRest
        have least := ih inRest
        split at found <;> cases found <;> intro entry member
        · rcases List.mem_cons.mp member with rfl | later
          · omega
          · exact least entry later
        · rcases List.mem_cons.mp member with rfl | later
          · exact Nat.le_refl _
          · have := least entry later
            omega
      · rename_i nothing
        cases found
        rw [shortest?_eq_none_iff.mp nothing]
        simp

/-- With a least length that is attained, the shortest entry is the first of that length. -/
theorem Entry.shortest?_eq_find? {entries : List Entry} {length : Nat} (bound : ∀ entry ∈ entries, length ≤ entry.length)
    (attained : ∃ entry ∈ entries, entry.length = length) :
    shortest? entries = entries.find? fun entry => entry.length = length := by
  induction entries with
  | nil => simp at attained
  | cons entry rest ih =>
      have boundRest : ∀ other ∈ rest, length ≤ other.length := fun other member =>
        bound other (List.mem_cons_of_mem entry member)
      rw [shortest?]
      by_cases first : entry.length = length
      · rw [List.find?_cons_of_pos (by simpa using first)]
        cases later : shortest? rest with
        | none => rfl
        | some best =>
            have := boundRest best (mem_of_shortest? later)
            exact if_neg (by omega)
      · have attainedRest : ∃ other ∈ rest, other.length = length := by
          obtain ⟨other, member, same⟩ := attained
          rcases List.mem_cons.mp member with rfl | inRest
          · exact absurd same first
          · exact ⟨other, inRest, same⟩
        obtain ⟨best, found⟩ : ∃ best, rest.find? (fun other => other.length = length) = some best := by
          rw [← Option.isSome_iff_exists, List.find?_isSome]
          simpa using attainedRest
        have same : best.length = length := by simpa using List.find?_some found
        have longer := bound entry List.mem_cons_self
        rw [List.find?_cons_of_neg (by simpa using first), ih boundRest attainedRest, found]
        exact if_pos (by omega)

/-- Of the entries that reach a length some entry has, the shortest is the first entry of that length. -/
theorem Entry.shortest?_filter_eq_find? {entries : List Entry} {length : Nat}
    (attained : ∃ entry ∈ entries, entry.length = length) :
    shortest? (entries.filter fun entry => length ≤ entry.length) =
      entries.find? fun entry => entry.length = length := by
  have bound : ∀ entry ∈ entries.filter fun entry => length ≤ entry.length, length ≤ entry.length := by
    intro entry member
    simpa using (List.mem_filter.mp member).2
  obtain ⟨entry, member, same⟩ := attained
  have kept : entry ∈ entries.filter fun entry => length ≤ entry.length :=
    List.mem_filter.mpr ⟨member, by simp [same]⟩
  rw [shortest?_eq_find? bound ⟨entry, kept, same⟩, List.find?_filter]
  congr
  funext other
  rw [decide_eq_decide, decide_eq_true_eq, decide_eq_true_eq]
  omega

/-- When entries are kept or dropped by their lengths, the shortest of those kept is the first entry of its length. -/
theorem Entry.find?_of_shortest?_filter {entries : List Entry} {covers : Entry → Bool}
    (measured : ∀ first second : Entry, first.length = second.length → covers first = covers second) {best : Entry}
    (found : shortest? (entries.filter covers) = some best) :
    (entries.find? fun entry => entry.length = best.length) = some best := by
  have covered : covers best = true := (List.mem_filter.mp (mem_of_shortest? found)).2
  have first := shortest?_eq_find? (length_le_of_shortest? found) ⟨best, mem_of_shortest? found, rfl⟩
  rw [found, List.find?_filter] at first
  rw [first]
  congr
  funext entry
  by_cases same : entry.length = best.length
  · simp [same, measured entry best same, covered]
  · simp [same]

/-! ## The bucket of a start -/

namespace OffsetIndex

theorem mem_starts_of_searchedStart? {index : OffsetIndex} {offset start : Nat}
    (searched : index.searchedStart? offset = some start) : start ∈ index.starts :=
  Array.mem_of_getElem? searched

/-- With any start at all, some start answers for every offset. -/
theorem exists_searchedStart? {index : OffsetIndex} {other : Nat} (member : other ∈ index.starts) (offset : Nat) :
    ∃ start, index.searchedStart? offset = some start := by
  have inside : (lowerBound? offset index.starts).getD 0 < index.starts.size := by
    cases answer : lowerBound? offset index.starts with
    | none => exact Array.size_pos_of_mem member
    | some i => exact lt_size_of_isLow (isLow_of_lowerBound? answer)
  exact ⟨_, Array.getElem?_eq_getElem inside⟩

section Ascending

variable {index : OffsetIndex} (ascending : index.starts.toList.Pairwise (· < ·))
include ascending

/-- When a start is not behind the offset, the greatest such start answers. -/
theorem searchedStart?_greatest {offset start other : Nat} (searched : index.searchedStart? offset = some start)
    (member : other ∈ index.starts) (before : other ≤ offset) : start ≤ offset ∧ other ≤ start := by
  obtain ⟨i, inside, rfl⟩ := Array.mem_iff_getElem.mp member
  have low : isLow offset index.starts i = true := isLow_iff.mpr ⟨_, Array.getElem?_eq_getElem inside, before⟩
  have sorted : index.starts.toList.Pairwise (· ≤ ·) := ascending.imp Nat.le_of_lt
  cases answer : lowerBound? offset index.starts with
  | none =>
      rw [(lowerBound?_eq_none_iff sorted).mp answer i] at low
      cases low
  | some j =>
      obtain ⟨found, last⟩ := (lowerBound?_eq_some_iff sorted).mp answer
      obtain ⟨element, held, notBehind⟩ := isLow_iff.mp found
      rw [searchedStart?, answer, Option.getD_some, held] at searched
      cases searched
      obtain ⟨within, rfl⟩ := Array.getElem?_eq_some_iff.mp held
      exact ⟨notBehind, getElem_le_of_le sorted (last i low) within⟩

/-- When no start is before the offset, the least start answers. -/
theorem searchedStart?_least {offset start : Nat} (searched : index.searchedStart? offset = some start)
    (behind : ∀ other ∈ index.starts, offset ≤ other) {other : Nat} (member : other ∈ index.starts) :
    start ≤ other := by
  by_cases filed : offset ∈ index.starts
  · have reached := (searchedStart?_greatest ascending searched filed (Nat.le_refl offset)).1
    exact Nat.le_trans reached (behind other member)
  · -- Nothing is low, so the search falls back to the first start.
    have sorted : index.starts.toList.Pairwise (· ≤ ·) := ascending.imp Nat.le_of_lt
    have nothing : lowerBound? offset index.starts = none := by
      rw [lowerBound?_eq_none_iff sorted]
      intro i
      rw [Bool.eq_false_iff]
      intro low
      obtain ⟨element, held, below⟩ := isLow_iff.mp low
      have found : element ∈ index.starts := Array.mem_of_getElem? held
      exact filed (Nat.le_antisymm below (behind element found) ▸ found)
    rw [searchedStart?, nothing, Option.getD_none] at searched
    obtain ⟨within, rfl⟩ := Array.getElem?_eq_some_iff.mp searched
    obtain ⟨i, inside, rfl⟩ := Array.mem_iff_getElem.mp member
    exact getElem_le_of_le sorted (Nat.zero_le i) inside

/-- A start that is filed answers for itself. -/
theorem searchedStart?_of_mem {start : Nat} (member : start ∈ index.starts) : index.searchedStart? start = some start := by
  obtain ⟨found, searched⟩ := exists_searchedStart? member start
  obtain ⟨notBehind, greatest⟩ := searchedStart?_greatest ascending searched member (Nat.le_refl start)
  rw [searched, Nat.le_antisymm notBehind greatest]

end Ascending

/-! ## What a lookup gives -/

/-- A lookup misses when nothing in the searched bucket covers what is asked for. -/
theorem tightest?_eq_none_iff {index : OffsetIndex} {offset : Nat} {covers : Nat → Entry → Bool} :
    index.tightest? offset covers = none ↔
      ∀ start, index.searchedStart? offset = some start → ∀ entry ∈ index.bucket start, covers start entry = false := by
  rw [tightest?]
  cases index.searchedStart? offset with
  | none => simp
  | some start =>
      have missed : Entry.shortest? ((index.bucket start).filter (covers start)) = none ↔
          ∀ entry ∈ index.bucket start, covers start entry = false := by
        simp [Entry.shortest?_eq_none_iff]
      simp only [Option.bind_eq_bind, Option.bind_some, Option.pure_def, Option.some.injEq, forall_eq', ← missed]
      cases Entry.shortest? ((index.bucket start).filter (covers start)) <;> simp

/-- When all entries of the searched bucket reach the end of a span, the shortest one is found. -/
theorem atSpan?_of_reached {index : OffsetIndex} {span : Span} {stop : Int64} (ends : span.stop? = some stop)
    {start : Nat} (searched : index.searchedStart? span.start.toInt.toNat = some start)
    (reached : ∀ entry ∈ index.bucket start, stop.toInt ≤ (start : Int) + entry.length) {best : Entry}
    (shortest : Entry.shortest? (index.bucket start) = some best) : index.atSpan? span = some best.id := by
  have whole : ((index.bucket start).filter fun entry => stop.toInt ≤ (start : Int) + entry.length) =
      index.bucket start := by
    rw [List.filter_eq_self]
    intro entry member
    exact decide_eq_true (reached entry member)
  rw [atSpan?, ends, Option.bind_eq_bind, Option.bind_some, tightest?, searched, Option.bind_eq_bind, Option.bind_some,
    whole, shortest]
  rfl

/-- What a lookup finds stands in one of the buckets. -/
theorem exists_entry_of_tightest? {index : OffsetIndex} {offset : Nat} {covers : Nat → Entry → Bool} {id : NodeId}
    (found : index.tightest? offset covers = some id) : ∃ start, ∃ entry ∈ index.bucket start, entry.id = id := by
  simp only [tightest?, Option.bind_eq_bind, Option.bind_eq_some_iff, Option.pure_def, Option.some.injEq] at found
  obtain ⟨start, -, entry, shortest, same⟩ := found
  exact ⟨start, entry, List.mem_of_mem_filter (Entry.mem_of_shortest? shortest), same⟩

/-- When an entry has exactly the length asked for, the lookup finds the first such entry at its start. -/
theorem atSpan?_of_filed {index : OffsetIndex} (ascending : index.starts.toList.Pairwise (· < ·)) {span : Span}
    (valid : span.isValid = true) (searched : span.start.toInt.toNat ∈ index.starts)
    (filed : ∃ entry ∈ index.bucket span.start.toInt.toNat, entry.length = span.length.toInt.toNat) :
    index.atSpan? span =
      ((index.bucket span.start.toInt.toNat).find? fun entry => entry.length = span.length.toInt.toNat).map Entry.id := by
  obtain ⟨start, length, -⟩ := Span.isValid_iff.mp valid
  obtain ⟨stop, ends, sum⟩ := Span.exists_stop valid
  have covers (entry : Entry) : decide (stop.toInt ≤ (span.start.toInt.toNat : Int) + entry.length) =
      decide (span.length.toInt.toNat ≤ entry.length) := by
    rw [decide_eq_decide]
    omega
  simp only [atSpan?, tightest?, ends, searchedStart?_of_mem ascending searched, Option.bind_eq_bind, Option.bind_some,
    Option.pure_def, covers, Entry.shortest?_filter_eq_find? filed]
  exact Option.map_eq_bind.symm

end OffsetIndex

/-! ## The first node of a span -/

open SolidityNav.Ast.RawNode (entryAt? hasExtent hasExtent_iff)

/-- The nodes with the extent of a valid span are those with an entry of its length in the bucket of its start. -/
theorem hasExtent_iff_entryAt? {span : Span} (valid : span.isValid = true) {raw : RawNode} :
    raw.hasExtent span = true ↔
      raw.entryAt? span.start.toInt.toNat = some ⟨span.length.toInt.toNat, raw.id⟩ := by
  obtain ⟨start, length, fits⟩ := Span.isValid_iff.mp valid
  rw [hasExtent_iff, entryAt?_eq_some_iff]
  constructor
  · rintro ⟨own, read, sameStart, sameLength⟩
    refine ⟨own, read, ?_, ?_, ?_⟩
    · rw [Span.isValid_iff, sameStart, sameLength]
      exact ⟨start, length, fits⟩
    · rw [sameStart, Int.toNat_of_nonneg start]
    · rw [sameLength]
  · rintro ⟨own, read, ownValid, sameStart, sameEntry⟩
    obtain ⟨-, ownLength, -⟩ := Span.isValid_iff.mp ownValid
    rw [Int.toNat_of_nonneg start] at sameStart
    have sameLength : span.length.toInt.toNat = own.length.toInt.toNat := congrArg Entry.length sameEntry
    exact ⟨own, read, Int64.toInt_inj.mp sameStart, Int64.toInt_inj.mp (by omega)⟩

theorem any_entryAt? {span : Span} (valid : span.isValid = true) (raw : RawNode) :
    (raw.entryAt? span.start.toInt.toNat).any (fun entry => entry.length = span.length.toInt.toNat) =
      raw.hasExtent span := by
  rw [Bool.eq_iff_iff, hasExtent_iff_entryAt? valid]
  cases found : raw.entryAt? span.start.toInt.toNat with
  | none => simp
  | some entry =>
      obtain ⟨_, -, -, -, rfl⟩ := entryAt?_eq_some_iff.mp found
      simp

/-- **A span that some node has is found at the first node in postorder that has it.** -/
theorem atSpan?_index {root : RawNode} {span : Span} (valid : span.isValid = true) {raw : RawNode}
    (member : raw ∈ root.postorder) (extent : raw.hasExtent span = true) :
    root.index.offsets.atSpan? span = (root.postorder.find? (hasExtent span)).map RawNode.id := by
  have entry := (hasExtent_iff_entryAt? valid).mp extent
  have searched : span.start.toInt.toNat ∈ root.index.offsets.starts := by
    obtain ⟨own, read, ownValid, start, -⟩ := entryAt?_eq_some_iff.mp entry
    exact mem_starts_index.mpr ⟨raw, member, own, read, ownValid, start⟩
  have filed : ∃ entry ∈ root.index.offsets.bucket span.start.toInt.toNat, entry.length = span.length.toInt.toNat := by
    rw [bucket_index]
    exact ⟨_, List.mem_filterMap.mpr ⟨raw, member, entry⟩, rfl⟩
  rw [OffsetIndex.atSpan?_of_filed (starts_index_ascending root) valid searched filed, bucket_index, List.find?_filterMap]
  simp only [any_entryAt? valid]
  cases found : root.postorder.find? (hasExtent span) with
  | none => rfl
  | some first =>
      have firstEntry := (hasExtent_iff_entryAt? valid).mp (List.find?_some found)
      rw [Option.bind_some, firstEntry]
      rfl

end Index

end SolidityNav
