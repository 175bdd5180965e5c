/-
# Proofs.Span -- valid spans

A span is valid when its start and length are natural numbers and its end is a word as well (`isValid_iff`).  What is
proved about valid spans uses these three bounds and the end that they give (`exists_stop`), and not how they are checked.
The end of any span, valid or not, is the sum of its start and its length, if that is a word (`stop?_eq_some_iff`).
Offsets come as words without a sign, and `Word.toInt_toInt64` says what they are with one.
-/
import SolidityNav.Span

namespace SolidityNav

set_option autoImplicit false

/-- A word read with a sign is its own number up to the middle of the range, and wraps behind it. -/
theorem Word.toInt_toInt64 (word : UInt64) :
    word.toInt64.toInt =
      if word.toNat < 0x8000000000000000 then (word.toNat : Int) else word.toNat - 0x10000000000000000 := by
  have signed : word.toInt64.toInt = word.toBitVec.toInt := rfl
  rw [signed, BitVec.toInt_eq_toNat_cond, UInt64.toNat_toBitVec]
  split <;> split <;> omega

/-- The signed word of an integer is the word that stands for it. -/
theorem Word.int64?_eq_some_iff {n : Int} {word : Int64} : Word.int64? n = some word ↔ word.toInt = n := by
  rw [Word.int64?]
  constructor
  · intro held
    split at held
    · rename_i inside
      cases held
      exact Int64.toInt_ofInt_of_le inside.1 inside.2
    · cases held
  · rintro rfl
    rw [if_pos ⟨word.le_toInt, word.toInt_lt⟩, Int64.ofInt_toInt]

namespace Span

theorem isValid_iff {span : Span} :
    span.isValid = true ↔
      0 ≤ span.start.toInt ∧ 0 ≤ span.length.toInt ∧ span.start.toInt + span.length.toInt < 0x8000000000000000 := by
  have zero : (0 : Int64).toInt = 0 := rfl
  simp only [isValid, stop?, Word.int64?, Bool.and_eq_true, decide_eq_true_eq, Int64.le_iff_toInt_le, zero, and_assoc]
  refine and_congr_right fun start => and_congr_right fun length => ?_
  rw [Option.isSome_ite]
  omega

/-- The end of a span is the word that is its start and its length together. -/
theorem stop?_eq_some_iff {span : Span} {stop : Int64} :
    span.stop? = some stop ↔ stop.toInt = span.start.toInt + span.length.toInt := by
  rw [stop?, Word.int64?_eq_some_iff]

theorem exists_stop_of_lt {span : Span} (forward : 0 ≤ span.length.toInt)
    (fits : span.start.toInt + span.length.toInt < 0x8000000000000000) :
    ∃ stop, span.stop? = some stop ∧ stop.toInt = span.start.toInt + span.length.toInt := by
  have low := span.start.le_toInt
  have sum : (Int64.ofInt (span.start.toInt + span.length.toInt)).toInt = span.start.toInt + span.length.toInt :=
    Int64.toInt_ofInt_of_le (by omega) (by omega)
  exact ⟨_, stop?_eq_some_iff.mpr sum, sum⟩

/-- A valid span ends at a word. -/
theorem exists_stop {span : Span} (valid : span.isValid = true) :
    ∃ stop, span.stop? = some stop ∧ stop.toInt = span.start.toInt + span.length.toInt := by
  obtain ⟨-, length, fits⟩ := isValid_iff.mp valid
  exact exists_stop_of_lt length fits

end Span

end SolidityNav
