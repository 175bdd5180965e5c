/-
# Proofs.LowerBound -- halving finds the last element not above a target

The search only looks at a few places, so what it says about all of them rests on the order of the array.  The lemmas
on `lastLow` state the invariant of the window: it starts at a low place as soon as one has been seen, and no low place
lies behind it.  `lowerBound?_eq_some_iff` and `lowerBound?_eq_none_iff` then describe the answer by the elements alone.

The last section reads the answer off the order of the elements.  It asks for a total preorder only: two elements may rank
equal without being the same, and the last of such a run is the answer.
-/
import Mathlib.Order.Bounds.Defs
import Mathlib.Order.Nat
import SolidityNav.LowerBound

namespace SolidityNav

set_option autoImplicit false

/-! ## The window -/

/-- The search stays where it began or moves to a low place. -/
theorem lastLow_low (low : Nat → Bool) (base size : Nat) :
    lastLow low base size = base ∨ low (lastLow low base size) = true := by
  induction size using Nat.strongRecOn generalizing base with
  | ind size ih =>
      rw [lastLow]
      by_cases large : 1 < size
      · rw [if_pos large]
        dsimp only
        by_cases middle : low (base + size / 2) = true
        · rw [if_pos middle]
          rcases ih (size - size / 2) (by omega) (base + size / 2) with same | found
          · right
            rw [same]
            exact middle
          · exact Or.inr found
        · rw [if_neg middle]
          exact ih (size - size / 2) (by omega) base
      · exact Or.inl (if_neg large)

/-- No low place of the window lies behind the answer, when all places before a low one are low. -/
theorem le_lastLow {low : Nat → Bool} (down : ∀ i j, i ≤ j → low j = true → low i = true) {base size i : Nat}
    (within : i < base + size) (found : low i = true) : i ≤ lastLow low base size := by
  induction size using Nat.strongRecOn generalizing base with
  | ind size ih =>
      rw [lastLow]
      by_cases large : 1 < size
      · rw [if_pos large]
        dsimp only
        by_cases middle : low (base + size / 2) = true
        · rw [if_pos middle]
          exact ih (size - size / 2) (by omega) (by omega)
        · rw [if_neg middle]
          -- The upper half is dropped: a low place in it would make its first place low.
          have lower : ¬ base + size / 2 ≤ i := fun upper => middle (down (base + size / 2) i upper found)
          exact ih (size - size / 2) (by omega) (by omega)
      · rw [if_neg large]
        omega

/-! ## The answer -/

theorem getElem_le_of_le {α : Type} [Preorder α] {array : Array α} (ascending : array.toList.Pairwise (· ≤ ·))
    {i j : Nat} (before : i ≤ j) (inside : j < array.size) : array[i] ≤ array[j] := by
  rcases Nat.lt_or_eq_of_le before with earlier | rfl
  · exact List.pairwise_iff_getElem.mp ascending i j (by simpa using by omega) (by simpa using inside) earlier
  · exact le_refl _

section Answer

variable {α : Type} [Preorder α] [DecidableLE α] {target : α} {array : Array α}

def isLow (target : α) (array : Array α) (i : Nat) : Bool :=
  match array[i]? with
  | some element => decide (element ≤ target)
  | none => false

theorem isLow_iff {i : Nat} : isLow target array i = true ↔ ∃ element, array[i]? = some element ∧ element ≤ target := by
  unfold isLow
  cases array[i]? <;> simp

theorem isLow_iff_getElem_le {i : Nat} :
    isLow target array i = true ↔ ∃ inside : i < array.size, array[i] ≤ target := by
  rw [isLow_iff]
  constructor
  · rintro ⟨element, held, low⟩
    obtain ⟨inside, rfl⟩ := Array.getElem?_eq_some_iff.mp held
    exact ⟨inside, low⟩
  · rintro ⟨inside, low⟩
    exact ⟨array[i], Array.getElem?_eq_getElem inside, low⟩

theorem lowerBound?_eq (target : α) (array : Array α) :
    lowerBound? target array =
      if isLow target array (lastLow (isLow target array) 0 array.size) then
        some (lastLow (isLow target array) 0 array.size)
      else none :=
  rfl

theorem isLow_of_le (ascending : array.toList.Pairwise (· ≤ ·)) (i j : Nat) (before : i ≤ j)
    (found : isLow target array j = true) : isLow target array i = true := by
  obtain ⟨inside, low⟩ := isLow_iff_getElem_le.mp found
  have ordered := getElem_le_of_le ascending before inside
  exact isLow_iff_getElem_le.mpr ⟨by omega, le_trans ordered low⟩

theorem lt_size_of_isLow {i : Nat} (found : isLow target array i = true) : i < array.size := by
  obtain ⟨inside, -⟩ := isLow_iff_getElem_le.mp found
  exact inside

/-- The answer is a low place, whatever the order of the array. -/
theorem isLow_of_lowerBound? {i : Nat} (answer : lowerBound? target array = some i) : isLow target array i = true := by
  rw [lowerBound?_eq] at answer
  split at answer
  · rename_i low
    cases answer
    exact low
  · cases answer

theorem le_place (ascending : array.toList.Pairwise (· ≤ ·)) {i : Nat} (low : isLow target array i = true) :
    i ≤ lastLow (isLow target array) 0 array.size := by
  apply le_lastLow (isLow_of_le ascending) ?_ low
  rw [Nat.zero_add]
  exact lt_size_of_isLow low

/-- When there is a low place, the search ends at one. -/
theorem isLow_place (ascending : array.toList.Pairwise (· ≤ ·)) {i : Nat} (low : isLow target array i = true) :
    isLow target array (lastLow (isLow target array) 0 array.size) = true := by
  rcases lastLow_low (isLow target array) 0 array.size with first | found
  · have before := le_place ascending low
    rw [first] at before ⊢
    exact isLow_of_le ascending 0 i (Nat.zero_le i) low
  · exact found

/-- **The answer is the last low place.** -/
theorem lowerBound?_eq_some_iff (ascending : array.toList.Pairwise (· ≤ ·)) {i : Nat} :
    lowerBound? target array = some i ↔
      isLow target array i = true ∧ ∀ j, isLow target array j = true → j ≤ i := by
  rw [lowerBound?_eq]
  constructor
  · intro answer
    split at answer
    · rename_i low
      cases answer
      exact ⟨low, fun j => le_place ascending⟩
    · cases answer
  · rintro ⟨low, last⟩
    have found := isLow_place ascending low
    have same : lastLow (isLow target array) 0 array.size = i :=
      Nat.le_antisymm (last _ found) (le_place ascending low)
    rw [if_pos found, same]

theorem lowerBound?_eq_none_iff (ascending : array.toList.Pairwise (· ≤ ·)) :
    lowerBound? target array = none ↔ ∀ i, isLow target array i = false := by
  rw [lowerBound?_eq]
  constructor
  · intro answer i
    rw [Bool.eq_false_iff]
    intro low
    rw [if_pos (isLow_place ascending low)] at answer
    cases answer
  · intro high
    rw [if_neg (by simp [high])]

/-! ## The elements around the answer -/

theorem isLow_of_target_le {lower upper : α} (raised : lower ≤ upper) {i : Nat} (low : isLow lower array i = true) :
    isLow upper array i = true := by
  obtain ⟨element, held, below⟩ := isLow_iff.mp low
  exact isLow_iff.mpr ⟨element, held, le_trans below raised⟩

/-- Raising the target never moves the answer back, and never loses it. -/
theorem lowerBound?_le_lowerBound? (ascending : array.toList.Pairwise (· ≤ ·)) {lower upper : α} (raised : lower ≤ upper) :
    lowerBound? lower array ≤ lowerBound? upper array := by
  cases before : lowerBound? lower array with
  | none => exact Option.none_le
  | some i =>
      -- The place found stays low under the raised target, so the second search ends there or behind it.
      have low : isLow upper array i = true := isLow_of_target_le raised (isLow_of_lowerBound? before)
      cases after : lowerBound? upper array with
      | none =>
          rw [(lowerBound?_eq_none_iff ascending).mp after i] at low
          cases low
      | some j => exact Option.some_le_some.mpr (((lowerBound?_eq_some_iff ascending).mp after).2 i low)

/-- The answer selects the greatest element that is not above the target. -/
theorem isGreatest_of_lowerBound? (ascending : array.toList.Pairwise (· ≤ ·)) {i : Nat}
    (answer : lowerBound? target array = some i) :
    ∃ inside : i < array.size, IsGreatest {element | element ∈ array ∧ element ≤ target} array[i] := by
  obtain ⟨low, last⟩ := (lowerBound?_eq_some_iff ascending).mp answer
  obtain ⟨inside, notAbove⟩ := isLow_iff_getElem_le.mp low
  refine ⟨inside, ⟨Array.getElem_mem inside, notAbove⟩, ?_⟩
  rintro element ⟨member, below⟩
  obtain ⟨j, held, rfl⟩ := Array.mem_iff_getElem.mp member
  exact getElem_le_of_le ascending (last j (isLow_iff_getElem_le.mpr ⟨held, below⟩)) inside

variable [@Std.Total α (· ≤ ·)]

/-- No low place lies behind a place just when every later element is above the target. -/
theorem forall_isLow_le_iff {i : Nat} :
    (∀ j, isLow target array j = true → j ≤ i) ↔ ∀ j (_ : j < array.size), i < j → target < array[j] := by
  constructor
  · intro last j inside behind
    rw [← Std.not_le]
    intro below
    exact Nat.not_le_of_lt behind (last j (isLow_iff_getElem_le.mpr ⟨inside, below⟩))
  · intro higher j low
    obtain ⟨inside, below⟩ := isLow_iff_getElem_le.mp low
    apply Nat.le_of_not_lt
    intro behind
    exact Std.not_le.mpr (higher j inside behind) below

theorem forall_isLow_eq_false_iff :
    (∀ i, isLow target array i = false) ↔ ∀ element ∈ array, target < element := by
  constructor
  · intro high element member
    obtain ⟨i, inside, rfl⟩ := Array.mem_iff_getElem.mp member
    rw [← Std.not_le]
    intro below
    exact Bool.eq_false_iff.mp (high i) (isLow_iff_getElem_le.mpr ⟨inside, below⟩)
  · intro above i
    rw [Bool.eq_false_iff]
    intro low
    obtain ⟨inside, below⟩ := isLow_iff_getElem_le.mp low
    exact Std.not_le.mpr (above _ (Array.getElem_mem inside)) below

/-- **The search is exact.**  In an ascending array, with or without repetitions, a place is the answer just when its element
is not above the target and every later element is; there is no answer just when every element is above the target.  Hence
raising the target never lowers the answer, where no answer is the lowest, and the answer selects the greatest element that
is not above the target. -/
theorem lowerBound?_exact (ascending : array.toList.Pairwise (· ≤ ·)) :
    (∀ target i, lowerBound? target array = some i ↔
      ∃ inside : i < array.size, array[i] ≤ target ∧ ∀ j (_ : j < array.size), i < j → target < array[j]) ∧
    (∀ target, lowerBound? target array = none ↔ ∀ element ∈ array, target < element) ∧
    (∀ lower upper, lower ≤ upper → lowerBound? lower array ≤ lowerBound? upper array) ∧
    ∀ target i, lowerBound? target array = some i →
      ∃ inside : i < array.size, IsGreatest {element | element ∈ array ∧ element ≤ target} array[i] := by
  refine ⟨fun target i => ?_, fun target => ?_, fun lower upper => lowerBound?_le_lowerBound? ascending,
    fun target i => isGreatest_of_lowerBound? ascending⟩
  · rw [lowerBound?_eq_some_iff ascending, forall_isLow_le_iff, isLow_iff_getElem_le, exists_and_right]
  · rw [lowerBound?_eq_none_iff ascending, forall_isLow_eq_false_iff]

end Answer

def repeated : Array Nat :=
  #[10, 20, 20, 30]

/-- The later of the two equal elements is the answer, for its own value and for what lies between it and the next; below the
first element and in an empty array there is none. -/
theorem lowerBound?_exact_repeated :
    repeated.toList.Pairwise (· ≤ ·) ∧
    lowerBound? 20 repeated = some 2 ∧ lowerBound? 29 repeated = some 2 ∧ lowerBound? 1000 repeated = some 3 ∧
    lowerBound? 9 repeated = none ∧ lowerBound? 0 (#[] : Array Nat) = none ∧
    lowerBound? 9 repeated ≤ lowerBound? 20 repeated ∧
    IsGreatest {element | element ∈ repeated ∧ element ≤ 29} 20 := by
  have ascending : repeated.toList.Pairwise (· ≤ ·) := by decide
  obtain ⟨found, missed, raised, greatest⟩ := lowerBound?_exact ascending
  have run : lowerBound? 29 repeated = some 2 := (found 29 2).mpr (by decide)
  obtain ⟨inside, selected⟩ := greatest 29 2 run
  have empty := lowerBound?_exact (List.Pairwise.nil : (#[] : Array Nat).toList.Pairwise (· ≤ ·))
  exact ⟨ascending, (found 20 2).mpr (by decide), run, (found 1000 3).mpr (by decide), (missed 9).mpr (by decide),
    (empty.2.1 0).mpr (by simp), raised 9 20 (by decide), selected⟩

end SolidityNav
