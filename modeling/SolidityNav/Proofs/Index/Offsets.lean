/-
# Proofs.Index.Offsets -- what is filed under which start

An offset index after a list of insertions, read as plain lists: the bucket of a start holds the entries of the valid
spans with that start in the order of insertion (`bucket_insertAll`), there is a bucket for exactly the starts of valid
spans (`mem_buckets_insertAll`), and `finish` lists these starts in ascending order.
-/
import SolidityNav.Index.OffsetIndex
import SolidityNav.Proofs.Span

namespace SolidityNav

set_option autoImplicit false

open SolidityNav.Ast (NodeId)

/-! ## Buckets -/

namespace Index.OffsetIndex

/-- The entry of a span under a start: that of a valid span which starts there. -/
def entryAt? (start : Nat) (placed : Span × NodeId) : Option Entry :=
  if placed.1.isValid ∧ placed.1.start.toInt = start then some ⟨placed.1.length.toInt.toNat, placed.2⟩ else none

theorem entryAt?_eq_some_iff {start : Nat} {placed : Span × NodeId} {entry : Entry} :
    entryAt? start placed = some entry ↔
      placed.1.isValid ∧ placed.1.start.toInt = start ∧ entry = ⟨placed.1.length.toInt.toNat, placed.2⟩ := by
  unfold entryAt?
  split
  · rename_i here
    simp [here, eq_comm]
  · rename_i elsewhere
    constructor
    · intro impossible
      cases impossible
    · rintro ⟨valid, starts, -⟩
      exact absurd ⟨valid, starts⟩ elsewhere

theorem bucket_insert (index : OffsetIndex) (span : Span) (id : NodeId) (start : Nat) :
    (index.insert span id).bucket start = index.bucket start ++ (entryAt? start (span, id)).toList := by
  unfold insert entryAt?
  by_cases valid : span.isValid = true
  · obtain ⟨nonnegative, -, -⟩ := Span.isValid_iff.mp valid
    simp only [valid, if_true, true_and, bucket, Std.ExtTreeMap.getD_alter, Std.LawfulEqCmp.compare_eq_iff_eq]
    by_cases starts : span.start.toInt = start
    · have here : span.start.toInt.toNat = start := by omega
      rw [if_pos here, if_pos starts, here]
      simp [Std.ExtTreeMap.getD_eq_getD_getElem?]
    · have elsewhere : ¬ span.start.toInt.toNat = start := by omega
      rw [if_neg elsewhere, if_neg starts]
      simp
  · simp [valid]

theorem mem_buckets_insert {index : OffsetIndex} {span : Span} {id : NodeId} {start : Nat} :
    start ∈ (index.insert span id).buckets ↔
      start ∈ index.buckets ∨ (span.isValid ∧ span.start.toInt = start) := by
  unfold insert
  by_cases valid : span.isValid = true
  · obtain ⟨nonnegative, -, -⟩ := Span.isValid_iff.mp valid
    have here : span.start.toInt.toNat = start ↔ span.start.toInt = start := by omega
    simp only [valid, if_true, Std.ExtTreeMap.mem_alter, Std.LawfulEqCmp.compare_eq_iff_eq, here, true_and]
    by_cases starts : span.start.toInt = start <;> simp [starts]
  · simp [valid]

/-- The starts that lookups search do not change before the next `finish`. -/
@[simp] theorem starts_insert (index : OffsetIndex) (span : Span) (id : NodeId) :
    (index.insert span id).starts = index.starts := by
  unfold insert
  split <;> rfl

def insertAll (index : OffsetIndex) (placed : List (Span × NodeId)) : OffsetIndex :=
  placed.foldl (fun built (span, id) => built.insert span id) index

theorem insertAll_cons (index : OffsetIndex) (first : Span × NodeId) (rest : List (Span × NodeId)) :
    index.insertAll (first :: rest) = (index.insert first.1 first.2).insertAll rest :=
  rfl

/-- **A bucket lists the valid spans with its start** in the order of insertion. -/
theorem bucket_insertAll (index : OffsetIndex) (placed : List (Span × NodeId)) (start : Nat) :
    (index.insertAll placed).bucket start = index.bucket start ++ placed.filterMap (entryAt? start) := by
  induction placed generalizing index with
  | nil => simp [insertAll]
  | cons first rest ih =>
      rw [insertAll_cons, ih, bucket_insert, List.append_assoc, List.filterMap_cons]
      cases entryAt? start (first.1, first.2) <;> rfl

theorem mem_buckets_insertAll {index : OffsetIndex} {placed : List (Span × NodeId)} {start : Nat} :
    start ∈ (index.insertAll placed).buckets ↔
      start ∈ index.buckets ∨ ∃ entry ∈ placed, entry.1.isValid ∧ entry.1.start.toInt = start := by
  induction placed generalizing index with
  | nil => simp [insertAll]
  | cons first rest ih =>
      rw [insertAll_cons, ih, mem_buckets_insert, or_assoc]
      simp only [List.mem_cons, exists_eq_or_imp]

@[simp] theorem bucket_empty (start : Nat) : empty.bucket start = [] := by
  simp [bucket, empty]

@[simp] theorem bucket_finish (index : OffsetIndex) (start : Nat) : index.finish.bucket start = index.bucket start :=
  rfl

theorem starts_finish_ascending (index : OffsetIndex) : index.finish.starts.toList.Pairwise (· < ·) := by
  have ordered := Std.ExtTreeMap.ordered_keys (t := index.buckets)
  simpa [finish, Nat.compare_eq_lt] using ordered

theorem mem_starts_finish {index : OffsetIndex} {start : Nat} : start ∈ index.finish.starts ↔ start ∈ index.buckets := by
  simp [finish]

end Index.OffsetIndex

end SolidityNav
