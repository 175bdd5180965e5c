/-
# Proofs.Index.Scan -- lookups are linear scans, whatever was done before

An offset index may be filled, finished and asked in any order.  Its plain reading is a `Ledger`: the valid spans that
were inserted so far, in their order, and those of them that were there at the last `finish`.  A ledger answers by going
through its lists: the start that answers is the greatest one not behind the offset, or else the least one, and the
answer is the first of the shortest spans with that start that reach far enough.

`Agrees ledger index` joins the two.  Every call keeps it and is answered alike by both sides (`Agrees.call`), so a whole
run is (`Agrees.replay`).  A ledger computes with integers; that words hold all sums and keep their order is `Exact`.
`replay_scan` states both for every list of calls on a new index.
-/
import Mathlib.Data.List.Find
import SolidityNav.Proofs.Index.Lookup

namespace SolidityNav

set_option autoImplicit false

open SolidityNav.Ast (NodeId)

namespace Index

/-! ## Calls -/

inductive Call where
  | insert (span : Span) (id : NodeId)
  | finish
  | atOffset (offset : UInt64)
  | atSpan (span : Span)

def OffsetIndex.call (index : OffsetIndex) : Call → OffsetIndex × Option NodeId
  | .insert span id => (index.insert span id, none)
  | .finish => (index.finish, none)
  | .atOffset offset => (index, index.atOffset? offset.toNat)
  | .atSpan span => (index, index.atSpan? span)

def replay {σ : Type} (call : σ → Call → σ × Option NodeId) (state : σ) : List Call → σ × List (Option NodeId)
  | [] => (state, [])
  | next :: rest =>
      let after := replay call (call state next).1 rest
      (after.1, (call state next).2 :: after.2)

/-! ## The ledger -/

structure Ledger where
  /-- The valid spans with their nodes, in the order of insertion. -/
  placed : List (Span × NodeId) := []
  /-- Those that were there at the last `finish`. -/
  finished : List (Span × NodeId) := []

namespace Ledger

def starts (ledger : Ledger) : List Int :=
  ledger.finished.map fun entry => entry.1.start.toInt

/-- The greatest start that is not behind the offset, or the least start when all are behind it. -/
def start? (ledger : Ledger) (offset : Int) : Option Int :=
  (ledger.starts.filter (· ≤ offset)).max?.or ledger.starts.min?

def candidates (ledger : Ledger) (start : Int) (reaches : Int → Bool) : List (Span × NodeId) :=
  ledger.placed.filter fun entry => entry.1.start.toInt = start ∧ reaches (start + entry.1.length.toInt)

def shortest? (entries : List (Span × NodeId)) : Option Int :=
  (entries.map fun entry => entry.1.length.toInt).min?

/-- The node of the first of the shortest spans with a start whose end is far enough. -/
def first? (ledger : Ledger) (start : Int) (reaches : Int → Bool) : Option NodeId :=
  let entries := ledger.candidates start reaches
  (entries.find? fun entry => some entry.1.length.toInt = shortest? entries).map Prod.snd

def atOffset? (ledger : Ledger) (offset : UInt64) : Option NodeId :=
  (ledger.start? offset.toNat).bind fun start => ledger.first? start fun stop => (offset.toNat : Int) < stop

/-- The node that a scan finds at a span; a span whose end is no word has none. -/
def atSpan? (ledger : Ledger) (span : Span) : Option NodeId :=
  if -0x8000000000000000 ≤ span.start.toInt + span.length.toInt ∧
      span.start.toInt + span.length.toInt < 0x8000000000000000 then
    (ledger.start? (max span.start.toInt 0)).bind fun start =>
      ledger.first? start fun stop => span.start.toInt + span.length.toInt ≤ stop
  else none

def call (ledger : Ledger) : Call → Ledger × Option NodeId
  | .insert span id =>
      (if span.isValid then { ledger with placed := ledger.placed ++ [(span, id)] } else ledger, none)
  | .finish => ({ ledger with finished := ledger.placed }, none)
  | .atOffset offset => (ledger, ledger.atOffset? offset)
  | .atSpan span => (ledger, ledger.atSpan? span)

/-! ### Spans as entries -/

def entryOf (placed : Span × NodeId) : Entry :=
  ⟨placed.1.length.toInt.toNat, placed.2⟩

theorem filter_filterMap_entryAt? {placed : List (Span × NodeId)} (valid : ∀ entry ∈ placed, entry.1.isValid = true)
    (start : Nat) {covers : Entry → Bool} {reaches : Int → Bool}
    (same : ∀ entry : Entry, covers entry = reaches ((start : Int) + entry.length)) :
    (placed.filterMap (OffsetIndex.entryAt? start)).filter covers =
      (placed.filter fun entry => entry.1.start.toInt = (start : Int) ∧ reaches (start + entry.1.length.toInt)).map
        entryOf := by
  induction placed with
  | nil => rfl
  | cons entry rest ih =>
      obtain ⟨validEntry, validRest⟩ := List.forall_mem_cons.mp valid
      obtain ⟨-, length, -⟩ := Span.isValid_iff.mp validEntry
      have covered : covers (entryOf entry) = reaches (start + entry.1.length.toInt) := by
        rw [same, entryOf, Int.toNat_of_nonneg length]
      by_cases here : entry.1.start.toInt = start
      · have filed : OffsetIndex.entryAt? start entry = some (entryOf entry) :=
          OffsetIndex.entryAt?_eq_some_iff.mpr ⟨validEntry, here, rfl⟩
        rw [List.filterMap_cons_some filed, List.filter_cons, List.filter_cons, ih validRest, covered]
        by_cases far : reaches (start + entry.1.length.toInt) = true <;> simp [here, far]
      · have unfiled : OffsetIndex.entryAt? start entry = none := if_neg fun filed => here filed.2
        rw [List.filterMap_cons_none unfiled, List.filter_cons_of_neg (by simp [here]), ih validRest]

/-- The shortest of the filed entries belongs to the first span of the least length. -/
theorem shortest?_map_entryOf {entries : List (Span × NodeId)} (valid : ∀ entry ∈ entries, entry.1.isValid = true) :
    (Entry.shortest? (entries.map entryOf)).map Entry.id =
      (entries.find? fun entry => some entry.1.length.toInt = Ledger.shortest? entries).map Prod.snd := by
  have lengths : ∀ entry ∈ entries, 0 ≤ entry.1.length.toInt := fun entry member =>
    (Span.isValid_iff.mp (valid entry member)).2.1
  cases least : Ledger.shortest? entries with
  | none =>
      have nothing : entries = [] := by simpa [Ledger.shortest?] using least
      rw [nothing]
      rfl
  | some length =>
      rw [Ledger.shortest?, List.min?_eq_some_iff] at least
      obtain ⟨attained, bound⟩ := least
      obtain ⟨holder, member, rfl⟩ := List.mem_map.mp attained
      have bounded : ∀ entry ∈ entries.map entryOf, holder.1.length.toInt.toNat ≤ entry.length := by
        intro entry inMap
        obtain ⟨placed, inEntries, rfl⟩ := List.mem_map.mp inMap
        exact Int.toNat_le_toNat (bound _ (List.mem_map_of_mem (f := fun entry : Span × NodeId => entry.1.length.toInt) inEntries))
      rw [Entry.shortest?_eq_find? bounded ⟨entryOf holder, List.mem_map_of_mem member, rfl⟩, List.find?_map,
        Option.map_map]
      have alike : ∀ entry ∈ entries,
          ((fun entry => decide (entry.length = holder.1.length.toInt.toNat)) ∘ entryOf) entry =
            decide (some entry.1.length.toInt = some holder.1.length.toInt) := by
        intro entry inEntries
        have := lengths entry inEntries
        have := lengths holder member
        have filed : (entryOf entry).length = entry.1.length.toInt.toNat := rfl
        rw [Function.comp_apply, decide_eq_decide, Option.some.injEq, filed]
        omega
      rw [List.find?_congr alike]
      rfl

end Ledger

/-! ## Agreement -/

/-- The index files what the ledger lists. -/
structure Agrees (ledger : Ledger) (index : OffsetIndex) : Prop where
  valid : ∀ entry ∈ ledger.placed, entry.1.isValid = true
  known : ∀ entry ∈ ledger.finished, entry ∈ ledger.placed
  buckets : ∀ start, index.bucket start = ledger.placed.filterMap (OffsetIndex.entryAt? start)
  filed : ∀ start, start ∈ index.buckets ↔ ∃ entry ∈ ledger.placed, entry.1.start.toInt = start
  ascending : index.starts.toList.Pairwise (· < ·)
  starts : ∀ start, start ∈ index.starts ↔ (start : Int) ∈ ledger.starts

theorem agrees_empty : Agrees {} .empty where
  valid := by simp
  known := by simp
  buckets := by simp
  filed := by simp [OffsetIndex.empty]
  ascending := List.Pairwise.nil
  starts := by simp [OffsetIndex.empty, Ledger.starts]

namespace Agrees

variable {ledger : Ledger} {index : OffsetIndex}

theorem nonneg_of_mem_starts (agrees : Agrees ledger index) {start : Int} (member : start ∈ ledger.starts) : 0 ≤ start := by
  obtain ⟨entry, inFinished, rfl⟩ := List.mem_map.mp member
  exact (Span.isValid_iff.mp (agrees.valid entry (agrees.known entry inFinished))).1

theorem toNat_mem_starts (agrees : Agrees ledger index) {start : Int} (member : start ∈ ledger.starts) :
    start.toNat ∈ index.starts := by
  rw [agrees.starts, Int.toNat_of_nonneg (agrees.nonneg_of_mem_starts member)]
  exact member

/-! ### The start that answers -/

section Searched

variable (agrees : Agrees ledger index) {offset start : Nat} (searched : index.searchedStart? offset = some start)
include agrees searched

theorem mem_starts_of_searched : (start : Int) ∈ ledger.starts :=
  (agrees.starts start).mp (OffsetIndex.mem_starts_of_searchedStart? searched)

/-- When some start is not behind the offset, the search ends at the greatest such start. -/
theorem max?_starts {other : Int} (member : other ∈ ledger.starts) (before : other ≤ offset) :
    (ledger.starts.filter (· ≤ (offset : Int))).max? = some (start : Int) := by
  have bounds : ∀ rival ∈ ledger.starts, rival ≤ offset → start ≤ offset ∧ rival ≤ start := by
    intro rival inStarts low
    have greatest := OffsetIndex.searchedStart?_greatest agrees.ascending searched (agrees.toNat_mem_starts inStarts)
      (by omega)
    omega
  rw [List.max?_eq_some_iff]
  constructor
  · refine List.mem_filter.mpr ⟨agrees.mem_starts_of_searched searched, ?_⟩
    simpa using (bounds other member before).1
  · intro rival kept
    obtain ⟨inStarts, low⟩ := List.mem_filter.mp kept
    exact (bounds rival inStarts (by simpa using low)).2

/-- When all starts are behind the offset, the search ends at the least one. -/
theorem min?_starts (behind : ∀ other ∈ ledger.starts, (offset : Int) < other) :
    ledger.starts.min? = some (start : Int) := by
  rw [List.min?_eq_some_iff]
  refine ⟨agrees.mem_starts_of_searched searched, fun other member => ?_⟩
  have first := OffsetIndex.searchedStart?_least agrees.ascending searched
    (fun rival inIndex => by have := behind rival ((agrees.starts rival).mp inIndex); omega)
    (agrees.toNat_mem_starts member)
  have := agrees.nonneg_of_mem_starts member
  omega

end Searched

/-- **The search ends at the start that the scan chooses.** -/
theorem start?_eq (agrees : Agrees ledger index) (offset : Nat) :
    ledger.start? offset = (index.searchedStart? offset).map fun start : Nat => (start : Int) := by
  rw [Ledger.start?]
  cases searched : index.searchedStart? offset with
  | none =>
      have nothing : ledger.starts = [] := by
        rw [List.eq_nil_iff_forall_not_mem]
        intro start member
        obtain ⟨found, answers⟩ := OffsetIndex.exists_searchedStart? (agrees.toNat_mem_starts member) offset
        rw [searched] at answers
        cases answers
      simp [nothing]
  | some start =>
      by_cases reached : ∃ other ∈ ledger.starts, other ≤ (offset : Int)
      · obtain ⟨other, member, before⟩ := reached
        rw [agrees.max?_starts searched member before]
        rfl
      · have behind : ∀ other ∈ ledger.starts, (offset : Int) < other := by
          intro other member
          exact Int.not_le.mp fun low => reached ⟨other, member, low⟩
        have nothing : ledger.starts.filter (· ≤ (offset : Int)) = [] := by
          rw [List.filter_eq_nil_iff]
          intro other member
          simpa using behind other member
        rw [nothing, agrees.min?_starts searched behind]
        rfl

/-! ### The node that answers -/

theorem valid_of_mem_candidates (agrees : Agrees ledger index) {start : Int} {reaches : Int → Bool} :
    ∀ entry ∈ ledger.candidates start reaches, entry.1.isValid = true := by
  intro entry member
  exact agrees.valid entry (List.mem_of_mem_filter member)

/-- **A bucket gives the node that the scan gives.** -/
theorem first?_eq (agrees : Agrees ledger index) (start : Nat) {covers : Entry → Bool} {reaches : Int → Bool}
    (same : ∀ entry : Entry, covers entry = reaches ((start : Int) + entry.length)) :
    ledger.first? start reaches = (Entry.shortest? ((index.bucket start).filter covers)).map Entry.id := by
  rw [agrees.buckets, Ledger.filter_filterMap_entryAt? agrees.valid start same]
  exact (Ledger.shortest?_map_entryOf agrees.valid_of_mem_candidates).symm

/-- A lookup is a scan, when the two ask the same of the ends of spans. -/
theorem tightest?_eq (agrees : Agrees ledger index) (offset : Nat) {covers : Nat → Entry → Bool} {reaches : Int → Bool}
    (same : ∀ (start : Nat) (entry : Entry), covers start entry = reaches ((start : Int) + entry.length)) :
    index.tightest? offset covers = (ledger.start? offset).bind fun start => ledger.first? start reaches := by
  rw [OffsetIndex.tightest?, agrees.start?_eq]
  cases index.searchedStart? offset with
  | none => rfl
  | some start =>
      rw [Option.map_some, Option.bind_some, agrees.first?_eq start (same start)]
      exact Option.map_eq_bind.symm

theorem atOffset?_eq (agrees : Agrees ledger index) (offset : UInt64) :
    index.atOffset? offset.toNat = ledger.atOffset? offset := by
  apply agrees.tightest?_eq
  intro start entry
  rw [decide_eq_decide]
  omega

theorem atSpan?_eq (agrees : Agrees ledger index) (span : Span) : index.atSpan? span = ledger.atSpan? span := by
  rw [OffsetIndex.atSpan?, Ledger.atSpan?]
  cases ends : span.stop? with
  | none =>
      rw [Span.stop?, Word.int64?, ite_eq_right_iff] at ends
      rw [if_neg fun inside => by cases ends inside]
      rfl
  | some stop =>
      have sum := Span.stop?_eq_some_iff.mp ends
      have low := stop.le_toInt
      have high := stop.toInt_lt
      have clamped : max span.start.toInt 0 = (span.start.toInt.toNat : Int) := by omega
      rw [if_pos (by omega), clamped, ← sum]
      exact agrees.tightest?_eq _ fun start entry => rfl

/-! ### Calls -/

/-- Inserting a span files it where the ledger lists it. -/
theorem insert (agrees : Agrees ledger index) (span : Span) (id : NodeId) :
    Agrees (ledger.call (.insert span id)).1 (index.insert span id) := by
  by_cases valid : span.isValid = true
  · have listed : (ledger.call (.insert span id)).1 = { ledger with placed := ledger.placed ++ [(span, id)] } :=
      if_pos valid
    rw [listed]
    exact {
      valid := by
        intro entry member
        rcases List.mem_append.mp member with before | last
        · exact agrees.valid entry before
        · rw [List.mem_singleton.mp last]
          exact valid
      known := fun entry member => List.mem_append_left _ (agrees.known entry member)
      buckets := by
        intro start
        rw [OffsetIndex.bucket_insert, agrees.buckets, List.filterMap_append, List.filterMap_cons]
        cases OffsetIndex.entryAt? start (span, id) <;> rfl
      filed := by
        intro start
        rw [OffsetIndex.mem_buckets_insert, agrees.filed]
        simp [valid, or_and_right, exists_or]
      ascending := by
        rw [OffsetIndex.starts_insert]
        exact agrees.ascending
      starts := by
        intro start
        rw [OffsetIndex.starts_insert]
        exact agrees.starts start }
  · have passed : index.insert span id = index := if_neg valid
    have unlisted : (ledger.call (.insert span id)).1 = ledger := if_neg valid
    rw [passed, unlisted]
    exact agrees

theorem finish (agrees : Agrees ledger index) : Agrees (ledger.call .finish).1 index.finish where
  valid := agrees.valid
  known _ member := member
  buckets := agrees.buckets
  filed := agrees.filed
  ascending := index.starts_finish_ascending
  starts start := by
    rw [OffsetIndex.mem_starts_finish, agrees.filed]
    simp [Ledger.call, Ledger.starts]

/-- **A call keeps the agreement**, and index and ledger give the same node. -/
theorem call (agrees : Agrees ledger index) (next : Call) :
    Agrees (ledger.call next).1 (index.call next).1 ∧ (ledger.call next).2 = (index.call next).2 := by
  cases next with
  | insert span id => exact ⟨agrees.insert span id, rfl⟩
  | finish => exact ⟨agrees.finish, rfl⟩
  | atOffset offset => exact ⟨agrees, (agrees.atOffset?_eq offset).symm⟩
  | atSpan span => exact ⟨agrees, (agrees.atSpan?_eq span).symm⟩

theorem replay (agrees : Agrees ledger index) (calls : List Call) :
    Agrees (Index.replay Ledger.call ledger calls).1 (Index.replay OffsetIndex.call index calls).1 ∧
      (Index.replay Ledger.call ledger calls).2 = (Index.replay OffsetIndex.call index calls).2 := by
  induction calls generalizing ledger index with
  | nil => exact ⟨agrees, rfl⟩
  | cons next rest ih =>
      obtain ⟨after, same⟩ := agrees.call next
      obtain ⟨agreed, alike⟩ := ih after
      exact ⟨agreed, congrArg₂ List.cons same alike⟩

end Agrees

/-! ## Words -/

def Entry.stopWord (start : Nat) (entry : Entry) : UInt64 :=
  UInt64.ofNat start + UInt64.ofNat entry.length

/-- What lookups compute in words is what they would compute in integers. -/
structure Exact (index : OffsetIndex) : Prop where
  /-- Starts and offsets compare as integers. -/
  starts : ∀ start ∈ index.starts, ∀ offset : UInt64, UInt64.ofNat start ≤ offset ↔ start ≤ offset.toNat
  /-- Sums do not wrap around, and do not change when they are read with a sign. -/
  stops : ∀ start, ∀ entry ∈ index.bucket start,
    (entry.stopWord start).toNat = start + entry.length ∧
      (entry.stopWord start).toInt64.toInt = (start : Int) + entry.length
  /-- Ends and offsets compare as integers. -/
  offsets : ∀ start, ∀ entry ∈ index.bucket start, ∀ offset : UInt64,
    offset < entry.stopWord start ↔ offset.toNat < start + entry.length
  /-- Ends and the ends of spans compare as integers. -/
  spans : ∀ start, ∀ entry ∈ index.bucket start, ∀ stop : Int64,
    stop ≤ (entry.stopWord start).toInt64 ↔ stop.toInt ≤ (start : Int) + entry.length

/-- The start of a span, cut off at zero, as a word without a sign. -/
theorem toNat_toUInt64_max (start : Int64) : ((max start 0).toUInt64.toNat : Int) = max start.toInt 0 := by
  have zero : (0 : Int64).toInt = 0 := rfl
  have cut : max start 0 = if start ≤ 0 then 0 else start := rfl
  rw [cut]
  split
  · rename_i low
    rw [Int64.le_iff_toInt_le, zero] at low
    have nothing : (0 : Int64).toUInt64.toNat = 0 := rfl
    omega
  · rename_i high
    rw [Int64.le_iff_toInt_le, zero] at high
    have unsigned : start.toUInt64.toNat = start.toInt.toNat :=
      Int64.toNat_toUInt64_of_le (by rw [Int64.le_iff_toInt_le, zero]; omega)
    omega

namespace Agrees

variable {ledger : Ledger} {index : OffsetIndex} (agrees : Agrees ledger index)
include agrees

theorem start_lt_of_mem_starts {start : Nat} (member : start ∈ index.starts) : start < 0x8000000000000000 := by
  obtain ⟨entry, -, starts⟩ := List.mem_map.mp ((agrees.starts start).mp member)
  have high := entry.1.start.toInt_lt
  omega

/-- A filed entry ends at a word, since only valid spans are filed. -/
theorem stop_lt_of_mem_bucket {start : Nat} {entry : Entry} (member : entry ∈ index.bucket start) :
    start + entry.length < 0x8000000000000000 := by
  rw [agrees.buckets] at member
  obtain ⟨placed, -, filed⟩ := List.mem_filterMap.mp member
  obtain ⟨valid, starts, rfl⟩ := OffsetIndex.entryAt?_eq_some_iff.mp filed
  obtain ⟨-, length, fits⟩ := Span.isValid_iff.mp valid
  dsimp only
  omega

theorem toNat_stopWord {start : Nat} {entry : Entry} (member : entry ∈ index.bucket start) :
    (entry.stopWord start).toNat = start + entry.length := by
  have fits := agrees.stop_lt_of_mem_bucket member
  rw [Entry.stopWord, UInt64.toNat_add, UInt64.toNat_ofNat', UInt64.toNat_ofNat']
  omega

theorem toInt_stopWord {start : Nat} {entry : Entry} (member : entry ∈ index.bucket start) :
    (entry.stopWord start).toInt64.toInt = (start : Int) + entry.length := by
  have sum := agrees.toNat_stopWord member
  have fits := agrees.stop_lt_of_mem_bucket member
  rw [Word.toInt_toInt64, if_pos (by omega), sum]
  omega

theorem exact : Exact index where
  starts := by
    intro start member offset
    have fits := agrees.start_lt_of_mem_starts member
    rw [UInt64.le_iff_toNat_le, UInt64.toNat_ofNat']
    omega
  stops start entry member := ⟨agrees.toNat_stopWord member, agrees.toInt_stopWord member⟩
  offsets := by
    intro start entry member offset
    rw [UInt64.lt_iff_toNat_lt, agrees.toNat_stopWord member]
  spans := by
    intro start entry member stop
    rw [Int64.le_iff_toInt_le, agrees.toInt_stopWord member]

end Agrees

/-! ## Every run -/

/-- **Lookups are linear scans over any history.**  Whatever calls are made on a new index, each gives the node that a scan
of the ledger gives; the starts are those of the spans before the last `finish`, in ascending order; and no word that a
lookup computes differs from the integer. -/
theorem replay_scan (calls : List Call) :
    ∃ index ledger replies, replay OffsetIndex.call .empty calls = (index, replies) ∧
      replay Ledger.call {} calls = (ledger, replies) ∧
      index.starts.toList.Pairwise (· < ·) ∧ (∀ start, start ∈ index.starts ↔ (start : Int) ∈ ledger.starts) ∧
      Exact index ∧ ∀ span : Span, ((max span.start 0).toUInt64.toNat : Int) = max span.start.toInt 0 := by
  obtain ⟨agrees, same⟩ := agrees_empty.replay calls
  exact ⟨_, _, _, rfl, Prod.ext rfl same, agrees.ascending, agrees.starts, agrees.exact,
    fun span => toNat_toUInt64_max span.start⟩

-- A span filed after `finish` is found where its start is searched already, and not found where it is not.
example :
    (replay OffsetIndex.call .empty [.insert ⟨4, 3, 0⟩ 7, .finish, .insert ⟨4, 1, 0⟩ 8, .insert ⟨0, 9, 0⟩ 1, .atOffset 4,
      .atOffset 5, .atOffset 0, .atSpan ⟨-2, 9, 0⟩, .atSpan ⟨5, 4, 0⟩]).2 =
    [none, none, none, none, some 8, some 7, some 8, some 7, none] := by
  decide +kernel

end Index

end SolidityNav
