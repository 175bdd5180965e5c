/-
# Proofs.Text.Numeral -- the numerals that are read and the numerals that are written

More texts are read as integers than are written for them: a numeral may have a plus sign and zeros in front.  `Numeral`
says which texts are numerals of which integer, with the value counted by places and not digit after digit as the reader
does; the reader reads exactly these (`readInt?_eq_some_iff`).

Each integer is written in one way (`writeInt`), which is one of its numerals (`numeral_writeInt`).  Of all its numerals,
also with blanks around them, this is the one that is `Plain`: without blanks, without a plus sign, without zeros in front
of other digits and without a minus sign in front of zero (`plain_writeInt`, `Numeral.eq_writeInt`).
-/
import Mathlib.Data.List.Basic
import SolidityNav.Text.Blank
import SolidityNav.Text.Numeral

namespace SolidityNav.Text

set_option autoImplicit false

/-! ## Rows of digits -/

theorem toNat_of_isDigit {c : Char} (digit : c.isDigit = true) : 0x30 ≤ c.toNat ∧ c.toNat ≤ 0x39 :=
  Char.isDigit_iff_toNat.mp digit

theorem digitValue_lt {c : Char} (digit : c.isDigit = true) : digitValue c < 10 := by
  have := toNat_of_isDigit digit
  show c.toNat - 48 < 10
  omega

structure Digits (digits : List Char) : Prop where
  nonempty : digits ≠ []
  decimal : ∀ c ∈ digits, c.isDigit = true

/-- The value of a row of digits by their places: the last digit counts once, the one before it ten times, and so on. -/
def placeValue : List Char → Nat
  | [] => 0
  | c :: rest => Nat.pow 10 rest.length * digitValue c + placeValue rest

/-- Reading goes on from the first digit. -/
theorem digitsValue_cons (c : Char) (rest : List Char) :
    digitsValue (c :: rest) = Nat.ofDigitChars 10 rest (digitValue c) := by
  simp [digitsValue, digitValue, Nat.ofDigitChars]

theorem digitsValue_eq_placeValue (digits : List Char) : digitsValue digits = placeValue digits := by
  induction digits with
  | nil => rfl
  | cons c rest ih =>
      rw [digitsValue_cons, Nat.ofDigitChars_eq_ofDigitChars_zero, placeValue, ← ih]
      rfl

theorem readNat?_eq_some_iff {text : List Char} {n : Nat} :
    readNat? text = some n ↔ Digits text ∧ placeValue text = n := by
  have accepted : (text.isEmpty || !text.all Char.isDigit) = false ↔ Digits text := by
    rw [Bool.or_eq_false_iff, Bool.not_eq_false', List.all_eq_true, List.isEmpty_eq_false_iff]
    exact ⟨fun both => ⟨both.1, both.2⟩, fun digits => ⟨digits.nonempty, digits.decimal⟩⟩
  rw [readNat?, digitsValue_eq_placeValue]
  by_cases digits : Digits text
  · simp [accepted.mpr digits, digits]
  · simp [eq_true_of_ne_false (mt accepted.mp digits), digits]

/-! ## Numerals -/

/-- The text is a numeral of the integer: one or more digits, after a sign or without one. -/
inductive Numeral : List Char → Int → Prop
  | unsigned {digits : List Char} : Digits digits → Numeral digits (placeValue digits)
  | positive {digits : List Char} : Digits digits → Numeral ('+' :: digits) (placeValue digits)
  | negative {digits : List Char} : Digits digits → Numeral ('-' :: digits) (-(placeValue digits : Int))

/-- A row of digits has no sign that could be taken off. -/
theorem readInt?_of_digits {digits : List Char} (row : Digits digits) :
    readInt? digits = (readNat? digits).map Int.ofNat := by
  fun_cases readInt? digits with
  | case1 rest => exact absurd (row.decimal '+' List.mem_cons_self) (by decide)
  | case2 rest => exact absurd (row.decimal '-' List.mem_cons_self) (by decide)
  | case3 => rfl

/-- **Exactly the numerals are read**, each as its integer. -/
theorem readInt?_eq_some_iff {text : List Char} {value : Int} : readInt? text = some value ↔ Numeral text value := by
  constructor
  · intro read
    unfold readInt? at read
    split at read <;> obtain ⟨n, readNat, rfl⟩ := Option.map_eq_some_iff.mp read <;>
      obtain ⟨row, rfl⟩ := readNat?_eq_some_iff.mp readNat
    · exact .positive row
    · exact .negative row
    · exact .unsigned row
  · intro numeral
    cases numeral with
    | unsigned row => rw [readInt?_of_digits row, readNat?_eq_some_iff.mpr ⟨row, rfl⟩]; rfl
    | positive row => rw [readInt?, readNat?_eq_some_iff.mpr ⟨row, rfl⟩]; rfl
    | negative row => rw [readInt?, readNat?_eq_some_iff.mpr ⟨row, rfl⟩]; rfl

/-! ## Characters of a numeral -/

def isNumeric (c : Char) : Bool :=
  c.isDigit || c == '+' || c == '-'

theorem Numeral.isNumeric_of_mem {text : List Char} {value : Int} (numeral : Numeral text value) {c : Char}
    (member : c ∈ text) : isNumeric c = true := by
  cases numeral with
  | unsigned row => simp [isNumeric, row.decimal c member]
  | positive row =>
      rcases List.mem_cons.mp member with rfl | inRow
      · decide
      · simp [isNumeric, row.decimal c inRow]
  | negative row =>
      rcases List.mem_cons.mp member with rfl | inRow
      · decide
      · simp [isNumeric, row.decimal c inRow]

theorem isBlank_of_isNumeric {c : Char} (numeric : isNumeric c = true) : isBlank c = false := by
  have range : 0x2B ≤ c.toNat ∧ c.toNat ≤ 0x39 := by
    simp only [isNumeric, Bool.or_eq_true, beq_iff_eq] at numeric
    rcases numeric with (digit | rfl) | rfl
    · have := toNat_of_isDigit digit
      omega
    · decide
    · decide
  simp only [isBlank, Bool.or_eq_false_iff, Bool.and_eq_false_iff, decide_eq_false_iff_not, beq_eq_false_iff_ne]
  omega

/-! ## Writing -/

theorem digits_writeNat (n : Nat) : Digits (writeNat n) where
  nonempty := Nat.toDigits_ne_nil
  decimal _ member := Nat.isDigit_of_mem_toDigits (by decide) (by decide) member

theorem placeValue_writeNat (n : Nat) : placeValue (writeNat n) = n := by
  rw [← digitsValue_eq_placeValue]
  exact Nat.ofDigitChars_ten_toDigits

/-- **What is written for an integer is a numeral of it.** -/
theorem numeral_writeInt (value : Int) : Numeral (writeInt value) value := by
  cases value with
  | ofNat n =>
      have numeral := Numeral.unsigned (digits_writeNat n)
      rwa [placeValue_writeNat] at numeral
  | negSucc n =>
      have numeral := Numeral.negative (digits_writeNat (n + 1))
      rwa [placeValue_writeNat] at numeral

theorem head?_writeNat {n : Nat} (positive : 0 < n) : (writeNat n).head? ≠ some '0' := by
  induction n using Nat.strongRecOn with
  | ind n ih =>
      rw [writeNat, Nat.toDigits_eq_if (by decide)]
      split
      · simp; omega
      · rw [List.head?_append_of_ne_nil _ Nat.toDigits_ne_nil]
        exact ih (n / 10) (by omega) (by omega)

theorem writeNat_digitValue {c : Char} (digit : c.isDigit = true) : writeNat (digitValue c) = [c] := by
  have small := digitValue_lt digit
  have same : 48 + digitValue c = c.toNat := by
    have := toNat_of_isDigit digit
    show 48 + (c.toNat - 48) = c.toNat
    omega
  rw [writeNat, Nat.toDigits_of_lt_base small, List.cons.injEq, ← Char.toNat_inj, Nat.toNat_digitChar_of_lt_ten small]
  exact ⟨same, rfl⟩

/-- Digits behind what is written for a positive number make the number that is read on from there. -/
theorem writeNat_append {n : Nat} (positive : 0 < n) {digits : List Char} (decimal : ∀ c ∈ digits, c.isDigit = true) :
    writeNat n ++ digits = writeNat (Nat.ofDigitChars 10 digits n) := by
  induction digits generalizing n with
  | nil => simp
  | cons c rest ih =>
      rw [List.forall_mem_cons] at decimal
      have next : writeNat n ++ [c] = writeNat (10 * n + digitValue c) := by
        rw [← writeNat_digitValue decimal.1]
        exact Nat.toDigits_append_toDigits (by decide) positive (digitValue_lt decimal.1)
      rw [List.append_cons, next, ih (by omega) decimal.2, Nat.ofDigitChars_cons]
      rfl

/-- **A row of digits without a zero in front is what is written for its value.** -/
theorem writeNat_placeValue {digits : List Char} (row : Digits digits) (lean : ∀ d rest, digits ≠ '0' :: d :: rest) :
    writeNat (placeValue digits) = digits := by
  obtain ⟨c, rest, rfl⟩ := List.exists_cons_of_ne_nil row.nonempty
  have decimal := List.forall_mem_cons.mp row.decimal
  by_cases zero : c = '0'
  · subst zero
    cases rest with
    | nil => rfl
    | cons d rest => exact absurd rfl (lean d rest)
  · have positive : 0 < digitValue c := by
      have := toNat_of_isDigit decimal.1
      have apart : c.toNat ≠ 48 := fun same => zero (Char.toNat_inj.mp same)
      show 0 < c.toNat - 48
      omega
    rw [← digitsValue_eq_placeValue, digitsValue_cons, ← writeNat_append positive decimal.2,
      writeNat_digitValue decimal.1]
    rfl

/-! ## Plain numerals -/

/-- Nothing is in the text that no numeral needs: no blank, no plus sign, no zero in front of another digit, and no minus
sign in front of zero. -/
structure Plain (text : List Char) : Prop where
  blankless : ∀ c ∈ text, isBlank c = false
  plusless : '+' ∉ text
  leadingless : ∀ d rest, text ≠ '0' :: d :: rest ∧ text ≠ '-' :: '0' :: d :: rest
  minusless : text ≠ ['-', '0']

theorem writeNat_ne_leading (n : Nat) (d : Char) (rest : List Char) : writeNat n ≠ '0' :: d :: rest := by
  intro written
  cases n with
  | zero => cases written
  | succ n => exact head?_writeNat (Nat.succ_pos n) (by rw [written]; rfl)

theorem notMem_writeNat (n : Nat) {c : Char} (sign : c.isDigit = false) : c ∉ writeNat n := by
  intro member
  rw [(digits_writeNat n).decimal c member] at sign
  cases sign

theorem writeNat_ne_minus (n : Nat) (rest : List Char) : writeNat n ≠ '-' :: rest := by
  intro written
  exact notMem_writeNat n (c := '-') (by decide) (written ▸ List.mem_cons_self)

theorem plain_writeInt (value : Int) : Plain (writeInt value) where
  blankless _ member := isBlank_of_isNumeric ((numeral_writeInt value).isNumeric_of_mem member)
  plusless := by
    cases value with
    | ofNat n => exact notMem_writeNat n (by decide)
    | negSucc n => simpa [writeInt] using notMem_writeNat (n + 1) (c := '+') (by decide)
  leadingless := by
    intro d rest
    cases value with
    | ofNat n =>
        exact ⟨writeNat_ne_leading n d rest, writeNat_ne_minus n ('0' :: d :: rest)⟩
    | negSucc n => simpa [writeInt] using writeNat_ne_leading (n + 1) d rest
  minusless := by
    cases value with
    | ofNat n => exact writeNat_ne_minus n ['0']
    | negSucc n =>
        intro written
        have zero : writeNat (n + 1) = ['0'] := (List.cons.inj written).2
        exact head?_writeNat (Nat.succ_pos n) (by rw [zero]; rfl)

/-- **The plain numeral of an integer is the one that is written for it.** -/
theorem Numeral.eq_writeInt {text : List Char} {value : Int} (numeral : Numeral text value) (plain : Plain text) :
    text = writeInt value := by
  cases numeral with
  | unsigned row =>
      exact (writeNat_placeValue row fun d rest => (plain.leadingless d rest).1).symm
  | positive row => exact absurd List.mem_cons_self plain.plusless
  | @negative digits row =>
      have written : writeNat (placeValue digits) = digits :=
        writeNat_placeValue row fun d rest same => (plain.leadingless d rest).2 (same ▸ rfl)
      cases value : placeValue digits with
      | zero =>
          rw [value] at written
          exact absurd (written ▸ rfl) plain.minusless
      | succ n =>
          rw [value] at written
          exact congrArg ('-' :: ·) written.symm

end SolidityNav.Text
