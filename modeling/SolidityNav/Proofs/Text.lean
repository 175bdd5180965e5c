/-
# Proofs.Text -- bytes, slices, blanks and the parts of a text

A slice of a text is there when both its ends are character boundaries (`exists_byteSlice?`).

Trimming takes off exactly the blanks around a text (`trim_eq_iff`); so what has no blank in it stays (`trim_of_padded`).

The first part of a text reaches to its first separator (`split_eq_cons_iff`).  The parts of a text between its separators
and the offsets of the separators describe the same thing.  Part `k` starts behind separator `k - 1` and reaches to
separator `k` or, when it is the last one, no further than the text (`exists_start_of_split`).
-/
import Mathlib.Data.List.TakeWhile
import SolidityNav.Text.Blank
import SolidityNav.Text.Bytes
import SolidityNav.Text.Split

namespace SolidityNav.Text

set_option autoImplicit false

@[simp] theorem byteLength_nil : byteLength [] = 0 := rfl

@[simp] theorem byteLength_cons (c : Char) (text : List Char) : byteLength (c :: text) = c.utf8Size + byteLength text := rfl

theorem byteLength_append (before after : List Char) :
    byteLength (before ++ after) = byteLength before + byteLength after := by
  induction before with
  | nil => simp
  | cons c rest ih => rw [List.cons_append, byteLength_cons, byteLength_cons, ih, Nat.add_assoc]

/-! ## Slices -/

/-- The offset falls between two characters of the text, or at one of its ends. -/
def Boundary (text : List Char) (offset : Nat) : Prop :=
  ∃ before after, text = before ++ after ∧ byteLength before = offset

theorem splitAtByte?_append (before after : List Char) :
    splitAtByte? (byteLength before) (before ++ after) = some (before, after) := by
  induction before with
  | nil => simp [splitAtByte?]
  | cons c rest ih =>
      obtain ⟨n, wide⟩ : ∃ n, c.utf8Size + byteLength rest = n + 1 :=
        ⟨c.utf8Size + byteLength rest - 1, by have := c.utf8Size_pos; omega⟩
      have behind : n + 1 - c.utf8Size = byteLength rest := by omega
      rw [List.cons_append, byteLength_cons, wide, splitAtByte?, if_pos (by omega), behind, ih]
      rfl

theorem byteSlice?_append (before middle after : List Char) :
    byteSlice? (before ++ (middle ++ after)) (byteLength before) (byteLength middle) = some middle := by
  simp [byteSlice?, splitAtByte?_append]

/-- **The text between two boundaries can be cut out.** -/
theorem exists_byteSlice? {text : List Char} {start length : Nat} (startBoundary : Boundary text start)
    (stopBoundary : Boundary text (start + length)) : ∃ middle, byteSlice? text start length = some middle := by
  obtain ⟨before, rest, rfl, rfl⟩ := startBoundary
  obtain ⟨upTo, after, same, bytes⟩ := stopBoundary
  rcases List.append_eq_append_iff.mp same with ⟨middle, rfl, rfl⟩ | ⟨extra, rfl, -⟩
  · rw [byteLength_append] at bytes
    obtain rfl : byteLength middle = length := by omega
    exact ⟨middle, byteSlice?_append before middle after⟩
  · -- The second boundary is not behind the first one, so nothing is cut out.
    rw [byteLength_append] at bytes ⊢
    obtain rfl : length = 0 := by omega
    have := byteSlice?_append (upTo ++ extra) [] rest
    rw [byteLength_append] at this
    exact ⟨[], this⟩

/-! ## Characters of one kind -/

section Runs

variable {α : Type} {p : α → Bool} {text front rest : List α}

theorem dropWhile_of_head (stops : ∀ c ∈ text.head?, p c = false) : text.dropWhile p = text := by
  cases text with
  | nil => rfl
  | cons c rest => exact List.dropWhile_cons_of_neg (by simp [stops c rfl])

theorem head_dropWhile (text : List α) : ∀ c ∈ (text.dropWhile p).head?, p c = false := by
  intro c first
  have stopped := List.head?_dropWhile_not p text
  rw [Option.mem_def.mp first] at stopped
  simpa using stopped

/-- What is left behind the characters of one kind starts with one of another kind, or is empty. -/
theorem dropWhile_eq_iff :
    text.dropWhile p = rest ↔
      ∃ front, text = front ++ rest ∧ (∀ c ∈ front, p c = true) ∧ ∀ c ∈ rest.head?, p c = false := by
  constructor
  · rintro rfl
    exact ⟨text.takeWhile p, List.takeWhile_append_dropWhile.symm, fun c => List.mem_takeWhile_imp, head_dropWhile text⟩
  · rintro ⟨front, rfl, inside, stops⟩
    rw [List.dropWhile_append_of_pos inside, dropWhile_of_head stops]

theorem takeWhile_eq_iff :
    text.takeWhile p = front ↔
      ∃ rest, text = front ++ rest ∧ (∀ c ∈ front, p c = true) ∧ ∀ c ∈ rest.head?, p c = false := by
  constructor
  · rintro rfl
    exact ⟨text.dropWhile p, List.takeWhile_append_dropWhile.symm, fun c => List.mem_takeWhile_imp, head_dropWhile text⟩
  · rintro ⟨rest, rfl, inside, stops⟩
    have nothing : rest.takeWhile p = [] := by
      cases rest with
      | nil => rfl
      | cons c others => exact List.takeWhile_cons_of_neg (by simp [stops c rfl])
    rw [List.takeWhile_append_of_pos inside, nothing, List.append_nil]

end Runs

/-! ## Blanks -/

/-- Trimming takes blanks from both ends and nothing else. -/
theorem exists_trim (text : List Char) :
    ∃ before after, text = before ++ trim text ++ after ∧ (∀ c ∈ before, isBlank c = true) ∧
      ∀ c ∈ after, isBlank c = true := by
  refine ⟨text.takeWhile isBlank, ((trimStart text).reverse.takeWhile isBlank).reverse, ?_, ?_, ?_⟩
  · have front : text.takeWhile isBlank ++ trimStart text = text := List.takeWhile_append_dropWhile
    have back : trim text ++ ((trimStart text).reverse.takeWhile isBlank).reverse = trimStart text := by
      rw [trim, trimEnd, ← List.reverse_append, List.takeWhile_append_dropWhile, List.reverse_reverse]
    rw [List.append_assoc, back, front]
  · intro c member
    exact List.mem_takeWhile_imp member
  · intro c member
    exact List.mem_takeWhile_imp (List.mem_reverse.mp member)

def Trimmed (text body : List Char) : Prop :=
  ∃ before after, text = before ++ body ++ after ∧ (∀ c ∈ before, isBlank c = true) ∧ (∀ c ∈ after, isBlank c = true) ∧
    (∀ c ∈ body.head?, isBlank c = false) ∧ ∀ c ∈ body.getLast?, isBlank c = false

theorem getLast_trim (text : List Char) : ∀ c ∈ (trim text).getLast?, isBlank c = false := by
  rw [trim, trimEnd, List.getLast?_reverse]
  exact head_dropWhile _

theorem head_trim (text : List Char) : ∀ c ∈ (trim text).head?, isBlank c = false := by
  -- Taking blanks off the end leaves the start of what is not empty.
  obtain ⟨taken, whole⟩ : trim text <+: trimStart text := by
    rw [trim, trimEnd, ← List.reverse_suffix, List.reverse_reverse]
    exact List.dropWhile_suffix isBlank
  intro c first
  have start : c ∈ (trimStart text).head? := by
    rw [← whole, List.head?_append, Option.mem_def.mp first]
    rfl
  exact head_dropWhile text c start

/-- **Trimming takes off exactly the blanks around a text.** -/
theorem trim_eq_iff {text body : List Char} : trim text = body ↔ Trimmed text body := by
  constructor
  · rintro rfl
    obtain ⟨before, after, padded, blankBefore, blankAfter⟩ := exists_trim text
    exact ⟨before, after, padded, blankBefore, blankAfter, head_trim text, getLast_trim text⟩
  · rintro ⟨before, after, rfl, blankBefore, blankAfter, first, last⟩
    have back : trimEnd (body ++ after) = body := by
      rw [trimEnd, List.reverse_append, List.dropWhile_append_of_pos (by simpa using blankAfter),
        dropWhile_of_head (by simpa using last), List.reverse_reverse]
    rw [trim, trimStart, List.append_assoc, List.dropWhile_append_of_pos blankBefore]
    cases body with
    | nil =>
        rw [List.nil_append, List.dropWhile_eq_nil_iff.mpr blankAfter]
        rfl
    | cons c rest =>
        rw [List.cons_append, List.dropWhile_cons_of_neg (by simp [first c rfl])]
        exact back

/-- Blanks around a text without blanks are trimmed off. -/
theorem trim_of_padded {before core after : List Char} (blankBefore : ∀ c ∈ before, isBlank c = true)
    (blankAfter : ∀ c ∈ after, isBlank c = true) (clean : ∀ c ∈ core, isBlank c = false) :
    trim (before ++ core ++ after) = core :=
  trim_eq_iff.mpr ⟨before, after, rfl, blankBefore, blankAfter, fun c first => clean c (List.mem_of_mem_head? first),
    fun c last => clean c (List.mem_of_mem_getLast? last)⟩

/-! ## Parts -/

theorem exists_cons_of_split (separator : Char) (text : List Char) :
    ∃ part parts, split separator text = part :: parts := by
  cases text with
  | nil => exact ⟨[], [], rfl⟩
  | cons c rest =>
      rw [split]
      split
      · exact ⟨_, _, rfl⟩
      · split <;> exact ⟨_, _, rfl⟩

theorem length_split (separator : Char) (text : List Char) :
    (split separator text).length = text.count separator + 1 := by
  induction text with
  | nil => rfl
  | cons c rest ih =>
      obtain ⟨part, parts, parted⟩ := exists_cons_of_split separator rest
      rw [parted] at ih
      rw [split, parted]
      by_cases separates : c = separator
      · simpa [separates] using ih
      · simpa [separates] using ih

/-- With separators between them, the parts are the text again. -/
theorem intercalate_split (separator : Char) (text : List Char) :
    [separator].intercalate (split separator text) = text := by
  induction text with
  | nil => rfl
  | cons c rest ih =>
      obtain ⟨part, parts, parted⟩ := exists_cons_of_split separator rest
      rw [parted] at ih
      rw [split, parted]
      by_cases separates : c = separator
      · simpa [separates] using ih
      · cases parts <;> simpa [separates] using ih

theorem split_of_not_mem {separator : Char} {part : List Char} (free : separator ∉ part) :
    split separator part = [part] := by
  induction part with
  | nil => rfl
  | cons c rest ih =>
      rw [List.mem_cons, not_or] at free
      rw [split, ih free.2]
      simp [Ne.symm free.1]

theorem split_append {separator : Char} {part : List Char} (free : separator ∉ part) (rest : List Char) :
    split separator (part ++ separator :: rest) = part :: split separator rest := by
  induction part with
  | nil =>
      obtain ⟨first, parts, parted⟩ := exists_cons_of_split separator rest
      simp [split, parted]
  | cons c others ih =>
      rw [List.mem_cons, not_or] at free
      rw [List.cons_append, split, ih free.2]
      simp [Ne.symm free.1]

theorem not_mem_of_mem_split {separator : Char} {text part : List Char} (member : part ∈ split separator text) :
    separator ∉ part := by
  induction text generalizing part with
  | nil =>
      rw [split, List.mem_singleton] at member
      simp [member]
  | cons c rest ih =>
      obtain ⟨first, parts, parted⟩ := exists_cons_of_split separator rest
      rw [parted] at ih
      rw [split, parted] at member
      by_cases separates : c = separator
      · simp only [if_pos separates, List.mem_cons] at member
        rcases member with rfl | later
        · exact List.not_mem_nil
        · exact ih (List.mem_cons.mpr later)
      · simp only [if_neg separates, List.mem_cons] at member
        rcases member with rfl | later
        · exact List.not_mem_cons_of_ne_of_not_mem (Ne.symm separates) (ih List.mem_cons_self)
        · exact ih (List.mem_cons_of_mem first later)

/-- The first part reaches to the end of the text or to the first separator, and the other parts are those behind it. -/
theorem split_eq_cons_iff {separator : Char} {text part : List Char} {parts : List (List Char)} :
    split separator text = part :: parts ↔
      separator ∉ part ∧
        ((text = part ∧ parts = []) ∨ ∃ rest, text = part ++ separator :: rest ∧ split separator rest = parts) := by
  constructor
  · intro parted
    by_cases separated : separator ∈ text
    · obtain ⟨front, rest, rfl, free⟩ := List.eq_append_cons_of_mem separated
      rw [split_append free] at parted
      obtain ⟨rfl, rfl⟩ := List.cons.inj parted
      exact ⟨free, Or.inr ⟨rest, rfl, rfl⟩⟩
    · rw [split_of_not_mem separated] at parted
      obtain ⟨rfl, rfl⟩ := List.cons.inj parted
      exact ⟨separated, Or.inl ⟨rfl, rfl⟩⟩
  · rintro ⟨free, ⟨rfl, rfl⟩ | ⟨rest, rfl, rfl⟩⟩
    · exact split_of_not_mem free
    · exact split_append free rest

theorem length_offsetsFrom (separator : Char) (text : List Char) (offset : Nat) :
    (offsetsFrom separator offset text).length = text.count separator := by
  induction text generalizing offset with
  | nil => rfl
  | cons c rest ih =>
      rw [offsetsFrom]
      by_cases separates : c = separator <;> simp [separates, ih]

/-- The offsets at which the parts of a text start, when the text itself starts at `offset`. -/
def partStarts (separator : Char) (offset : Nat) (text : List Char) : List Nat :=
  offset :: (offsetsFrom separator offset text).map (· + separator.utf8Size)

/-- **A part reaches from its start to the next separator**, and never behind the end of the text. -/
theorem exists_start_of_split {separator : Char} {text : List Char} (offset : Nat) {k : Nat} {part : List Char}
    (parted : (split separator text)[k]? = some part) :
    ∃ start, (partStarts separator offset text)[k]? = some start ∧
      (∀ place, (offsetsFrom separator offset text)[k]? = some place → place = start + byteLength part) ∧
      start + byteLength part ≤ offset + byteLength text := by
  induction text generalizing offset k part with
  | nil =>
      cases k with
      | zero =>
          cases parted
          exact ⟨offset, rfl, by simp [offsetsFrom], Nat.le_refl _⟩
      | succ k => cases parted
  | cons c rest ih =>
      obtain ⟨first, parts, partedRest⟩ := exists_cons_of_split separator rest
      rw [split, partedRest] at parted
      by_cases separates : c = separator
      · subst separates
        simp only [if_true] at parted
        cases k with
        | zero =>
            cases parted
            exact ⟨offset, rfl, by simp [offsetsFrom], by simp⟩
        | succ k =>
            rw [List.getElem?_cons_succ, ← partedRest] at parted
            obtain ⟨start, starts, ends, inside⟩ := ih (offset + c.utf8Size) parted
            refine ⟨start, ?_, ?_, ?_⟩
            · simpa [partStarts, offsetsFrom] using starts
            · simpa [offsetsFrom] using ends
            · rw [byteLength_cons]
              omega
      · have places : offsetsFrom separator offset (c :: rest) = offsetsFrom separator (offset + c.utf8Size) rest := by
          rw [offsetsFrom, if_neg separates]
        simp only [if_neg separates] at parted
        rw [places, partStarts, places]
        cases k with
        | zero =>
            cases parted
            have firstOfRest : (split separator rest)[0]? = some first := by
              rw [partedRest]
              rfl
            -- The character belongs to the first part of the rest, which starts one character later.
            obtain ⟨start, starts, ends, inside⟩ := ih (offset + c.utf8Size) firstOfRest
            cases starts
            refine ⟨offset, rfl, ?_, ?_⟩
            · intro place held
              rw [ends place held, byteLength_cons, Nat.add_assoc]
            · rw [byteLength_cons, byteLength_cons]
              omega
        | succ k =>
            have partedLater : (split separator rest)[k + 1]? = some part := by
              rw [partedRest]
              exact parted
            obtain ⟨start, starts, ends, inside⟩ := ih (offset + c.utf8Size) partedLater
            refine ⟨start, starts, ends, ?_⟩
            rw [byteLength_cons]
            omega

end SolidityNav.Text
