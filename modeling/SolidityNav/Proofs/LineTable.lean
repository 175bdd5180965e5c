/-
# Proofs.LineTable -- positions that are shown lead back to their bytes

A byte is shown as a line and a column from an origin.  An editor takes the shown position to its own zero-origin
coordinates and asks with them; the query position made of these leads back to the same byte
(`offset?_ofLsp_toLsp`), also on the first line, where columns count from the origin, and at a newline, which belongs to
the line it ends.  It needs only that the shown line and column fit their words (`Fits`).
-/
import Mathlib.Order.Nat
import SolidityNav.LineTable
import SolidityNav.Proofs.LowerBound
import SolidityNav.Proofs.Span

namespace SolidityNav

set_option autoImplicit false

/-! ## Words -/

theorem Word.toNat_ofNat_add {n : Nat} {origin : UInt32} (fits : n + origin.toNat < UInt32.size) :
    (UInt32.ofNat n + origin).toNat = n + origin.toNat := by
  rw [UInt32.toNat_add, UInt32.toNat_ofNat_of_lt' (Nat.lt_of_le_of_lt (Nat.le_add_right _ _) fits)]
  exact Nat.mod_eq_of_lt fits

/-- A word that was moved up by an origin without wrapping is not below it. -/
theorem Word.not_ofNat_add_lt {n : Nat} {origin : UInt32} (fits : n + origin.toNat < UInt32.size) :
    ¬ UInt32.ofNat n + origin < origin := by
  rw [UInt32.lt_iff_toNat_lt, toNat_ofNat_add fits]
  omega

theorem Word.monus_ofNat_add {n : Nat} {origin : UInt32} (fits : n + origin.toNat < UInt32.size) :
    monus (UInt32.ofNat n + origin) origin = UInt32.ofNat n := by
  rw [monus, if_neg (not_ofNat_add_lt fits), UInt32.add_sub_cancel]

/-! ## Newlines in ascending order -/

theorem Text.offsetsFrom_ge {c : Char} {text : List Char} {offset place : Nat}
    (member : place ∈ offsetsFrom c offset text) : offset ≤ place := by
  induction text generalizing offset with
  | nil => cases member
  | cons d rest ih =>
      rw [offsetsFrom] at member
      split at member
      · rcases List.mem_cons.mp member with rfl | later
        · exact Nat.le_refl _
        · have := ih later
          omega
      · have := ih member
        omega

theorem Text.offsetsFrom_ascending (c : Char) (text : List Char) (offset : Nat) :
    (offsetsFrom c offset text).Pairwise (· < ·) := by
  induction text generalizing offset with
  | nil => exact List.Pairwise.nil
  | cons d rest ih =>
      rw [offsetsFrom]
      split
      · refine List.pairwise_cons.mpr ⟨fun place later => ?_, ih _⟩
        have behind := offsetsFrom_ge later
        have wide := d.utf8Size_pos
        omega
      · exact ih _

namespace LineTable

theorem ofText_ascending (text : String) : (ofText text).breaks.toList.Pairwise (· < ·) :=
  Text.offsetsFrom_ascending '\n' text.toList 0

/-! ## Lines -/

theorem lineStart_succ {table : LineTable} {line newline : Nat} (held : table.breaks[line]? = some newline) :
    table.lineStart (line + 1) = newline + 1 := by
  rw [lineStart, Array.getD_eq_getD_getElem?, held, Option.getD_some]

theorem lineStart_le_of_newline {table : LineTable} {line newline offset : Nat}
    (held : table.breaks[line]? = some newline) (before : newline < offset) :
    table.lineStart (line + 1) ≤ offset ∧ line + 1 ≤ table.breaks.size := by
  rw [lineStart_succ held]
  exact ⟨before, (Array.getElem?_eq_some_iff.mp held).1⟩

/-- A byte does not lie before its line, and its line is one of the text. -/
theorem lineStart_line_le {table : LineTable} (ascending : table.breaks.toList.Pairwise (· < ·)) (offset : Nat) :
    table.lineStart (table.line offset) ≤ offset ∧ table.line offset ≤ table.breaks.size := by
  unfold line
  cases answer : lowerBound? offset table.breaks with
  | none => exact ⟨Nat.zero_le _, Nat.zero_le _⟩
  | some i =>
      obtain ⟨newline, held, before⟩ := isLow_iff.mp (isLow_of_lowerBound? answer)
      dsimp only
      by_cases atNewline : table.breaks[i]? = some offset
      · rw [if_pos atNewline]
        cases i with
        | zero => exact ⟨Nat.zero_le _, Nat.zero_le _⟩
        | succ i =>
            -- The newline ends its line, so the line begins behind the newline before it.
            obtain ⟨inside, same⟩ := Array.getElem?_eq_some_iff.mp atNewline
            have earlier : table.breaks[i] < table.breaks[i + 1] :=
              List.pairwise_iff_getElem.mp ascending i (i + 1) (by simpa using by omega) (by simpa using inside) (by omega)
            exact lineStart_le_of_newline (Array.getElem?_eq_getElem (by omega)) (same ▸ earlier)
      · rw [if_neg atNewline]
        have differs : newline ≠ offset := fun same => atNewline (same ▸ held)
        exact lineStart_le_of_newline held (by omega)

/-! ## Positions -/

/-- The line and the column of the byte, each counted from its origin, are words. -/
structure Fits (table : LineTable) (lineOrigin columnOrigin : UInt32) (offset : Nat) : Prop where
  line : table.line offset + lineOrigin.toNat < UInt32.size
  column : offset - table.lineStart (table.line offset) + columnOrigin.toNat < UInt32.size

theorem toLsp_position {table : LineTable} {origin : UInt32} {offset : Nat} (fits : table.Fits origin origin offset) :
    (table.position origin origin offset).toLsp origin =
      ⟨UInt32.ofNat (table.line offset), UInt32.ofNat (offset - table.lineStart (table.line offset))⟩ := by
  rw [Position.toLsp, position, Word.monus_ofNat_add fits.line, Word.monus_ofNat_add fits.column]

/-- A query with the zero-origin line and column of a byte finds the byte.  On the first line the column has to be a word
also after the origin is added. -/
theorem offset?_ofLsp {table : LineTable} {origin : UInt32} {line column : Nat} (inside : line ≤ table.breaks.size)
    (lineFits : line + origin.toNat < UInt32.size) (columnFits : column + origin.toNat < UInt32.size) :
    table.offset? origin (Position.ofLsp origin ⟨UInt32.ofNat line, UInt32.ofNat column⟩) =
      some (table.lineStart line + column) := by
  have columnSmall : column < UInt32.size := by omega
  cases line with
  | zero =>
      have first : UInt32.ofNat 0 = 0 := rfl
      simp only [offset?, Position.ofLsp, first, UInt32.zero_add, UInt32.lt_irrefl, if_true, if_false,
        Word.not_ofNat_add_lt columnFits, UInt32.add_sub_cancel, UInt32.toNat_ofNat_of_lt' columnSmall, lineStart,
        Nat.zero_add]
  | succ line =>
      have lineSmall : line + 1 < UInt32.size := by omega
      have later : UInt32.ofNat (line + 1) ≠ 0 := by
        rw [ne_eq, ← UInt32.toNat_inj, UInt32.toNat_ofNat_of_lt' lineSmall]
        exact Nat.succ_ne_zero line
      have below : UInt32.ofNat (line + 1) + origin ≠ origin := by
        rw [ne_eq, ← UInt32.toNat_inj, Word.toNat_ofNat_add lineFits]
        omega
      have newline : (UInt32.ofNat (line + 1) + origin - origin - 1).toNat = line := by
        rw [UInt32.add_sub_cancel, UInt32.ofNat_add, show UInt32.ofNat 1 = 1 from rfl, UInt32.add_sub_cancel]
        exact UInt32.toNat_ofNat_of_lt' (by omega)
      have held : table.breaks[line]? = some table.breaks[line] := Array.getElem?_eq_getElem inside
      simp only [offset?, Position.ofLsp, later, below, newline, held, if_false, Word.not_ofNat_add_lt lineFits,
        Option.map_some, UInt32.toNat_ofNat_of_lt' columnSmall, lineStart_succ held]

/-- **A shown position leads back to its byte.** -/
theorem offset?_ofLsp_toLsp {table : LineTable} (ascending : table.breaks.toList.Pairwise (· < ·)) {origin : UInt32}
    {offset : Nat} (fits : table.Fits origin origin offset) :
    table.offset? origin (Position.ofLsp origin ((table.position origin origin offset).toLsp origin)) = some offset := by
  obtain ⟨before, inside⟩ := lineStart_line_le ascending offset
  rw [toLsp_position fits, offset?_ofLsp inside fits.line fits.column, Nat.add_sub_cancel' before]

/-! ## Spans -/

structure Shows (table : LineTable) (origin : UInt32) (span : Span) : Prop where
  valid : span.isValid = true
  start : table.Fits origin origin span.start.toInt.toNat
  stop : table.Fits origin origin (span.start.toInt + span.length.toInt).toNat

theorem region?_of_isValid {table : LineTable} {lineOrigin columnOrigin : UInt32} {span : Span}
    (valid : span.isValid = true) :
    table.region? lineOrigin columnOrigin span =
      some ⟨table.position lineOrigin columnOrigin span.start.toInt.toNat,
        table.position lineOrigin columnOrigin (span.start.toInt + span.length.toInt).toNat⟩ := by
  obtain ⟨stop, ends, sum⟩ := Span.exists_stop valid
  simp only [region?, valid, ends, sum, Bool.not_true, Bool.false_eq_true, if_false, Option.bind_eq_bind,
    Option.bind_some, Option.pure_def]

/-- A span has positions exactly when it is valid. -/
theorem isSome_region? (table : LineTable) (lineOrigin columnOrigin : UInt32) (span : Span) :
    (table.region? lineOrigin columnOrigin span).isSome = span.isValid := by
  cases valid : span.isValid with
  | true => rw [region?_of_isValid valid]; rfl
  | false => simp [region?, valid]

/-- **A shown span leads back to its bytes.** -/
theorem span?_ofLsp_toLsp {table : LineTable} (ascending : table.breaks.toList.Pairwise (· < ·)) {origin : UInt32}
    {span : Span} (shown : table.Shows origin span) {region : Region}
    (rendered : table.region? origin origin span = some region) (file : Int64) :
    table.span? origin file (Region.ofLsp origin (region.toLsp origin)) = some ⟨span.start, span.length, file⟩ := by
  rw [region?_of_isValid shown.valid, Option.some.injEq] at rendered
  subst rendered
  obtain ⟨start, length, -⟩ := Span.isValid_iff.mp shown.valid
  have first : ((span.start.toInt.toNat : Nat) : Int) = span.start.toInt := Int.toNat_of_nonneg start
  have last : (((span.start.toInt + span.length.toInt).toNat : Nat) : Int) = span.start.toInt + span.length.toInt :=
    Int.toNat_of_nonneg (by omega)
  simp only [span?, Region.ofLsp, Region.toLsp, offset?_ofLsp_toLsp ascending shown.start,
    offset?_ofLsp_toLsp ascending shown.stop, Option.bind_eq_bind, Option.bind_some, Option.pure_def]
  rw [← Int64.ofInt_eq_ofNat, first, last, Int.add_comm, Int.add_sub_cancel, Int64.ofInt_toInt, Int64.ofInt_toInt]

end LineTable

end SolidityNav
