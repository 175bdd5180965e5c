/-
# Proofs.Coordinates -- rendering and querying undo each other

What is rendered counts lines and columns from the origin everywhere, and a query counts columns from it on the first
line only.  An editor that keeps zero-origin coordinates goes between the two with `toLsp` and `ofLsp`.

That the bytes of a span come back from its rendering is `LineTable.span?_ofLsp_toLsp`.  This module has the way around:
a range of an editor inside the text (`LspRange.Inside`) comes back from the span that it selects
(`exists_toLsp_of_inside`).  It rests on what the line of a byte is (`Holds`): each byte has exactly one, an end of a line
being a byte of the line it ends, and bytes of later lines come later.

`ofLsp_toLsp_inverse` states both directions for all texts and origins.  Spans count bytes in signed words, so the way
around needs a text of fewer than 2^63 bytes, as every text in memory is.
-/
import SolidityNav.Proofs.LineTable
import SolidityNav.Proofs.Text

namespace SolidityNav

set_option autoImplicit false

/-! ## Positions in a text -/

/-- The position lies inside the text: its line is there, and its column is at most the byte length of the line. -/
structure LspPosition.Inside (text : String) (position : LspPosition) : Prop where
  line : position.line.toNat ≤ text.toList.count '\n'
  character : position.character.toNat ≤
    Text.byteLength ((Text.split '\n' text.toList).getD position.line.toNat [])

/-- The coordinates can be moved up by the origin. -/
structure LspPosition.Fits (origin : UInt32) (position : LspPosition) : Prop where
  line : position.line.toNat + origin.toNat < UInt32.size
  character : position.character.toNat + origin.toNat < UInt32.size

def LspPosition.NotBehind (position other : LspPosition) : Prop :=
  position.line < other.line ∨ position.line = other.line ∧ position.character ≤ other.character

structure LspRange.Inside (text : String) (range : LspRange) : Prop where
  start : range.start.Inside text
  stop : range.stop.Inside text
  ordered : range.start.NotBehind range.stop

namespace LineTable

/-! ## The line of a byte -/

/-- The line holds the byte: it is one of the text, and the byte is not before its start nor behind its newline. -/
structure Holds (table : LineTable) (line offset : Nat) : Prop where
  inside : line ≤ table.breaks.size
  start : table.lineStart line ≤ offset
  stop : ∀ newline, table.breaks[line]? = some newline → offset ≤ newline

section Ascending

variable {table : LineTable} (ascending : table.breaks.toList.Pairwise (· < ·))
include ascending

/-- A byte of an earlier line is an earlier byte. -/
theorem Holds.lt_of_lt {line other offset place : Nat} (held : table.Holds line offset)
    (otherHeld : table.Holds other place) (earlier : line < other) : offset < place := by
  obtain ⟨previous, rfl⟩ : ∃ previous, other = previous + 1 := ⟨other - 1, by omega⟩
  have inside := otherHeld.inside
  have atNewline := held.stop _ (Array.getElem?_eq_getElem (by omega))
  have start := otherHeld.start
  rw [lineStart_succ (Array.getElem?_eq_getElem inside)] at start
  have ordered : table.breaks[line] ≤ table.breaks[previous] :=
    getElem_le_of_le (ascending.imp Nat.le_of_lt) (by omega) (by omega)
  omega

/-- A byte has one line. -/
theorem Holds.unique {line other offset : Nat} (held : table.Holds line offset) (otherHeld : table.Holds other offset) :
    line = other := by
  rcases Nat.lt_trichotomy line other with earlier | same | later
  · exact absurd (held.lt_of_lt ascending otherHeld earlier) (Nat.lt_irrefl offset)
  · exact same
  · exact absurd (otherHeld.lt_of_lt ascending held later) (Nat.lt_irrefl offset)

theorem holds_line (offset : Nat) : table.Holds (table.line offset) offset := by
  obtain ⟨start, inside⟩ := lineStart_line_le ascending offset
  refine ⟨inside, start, fun newline held => ?_⟩
  have sorted : table.breaks.toList.Pairwise (· ≤ ·) := ascending.imp Nat.le_of_lt
  -- A newline before the byte is low, and the line of a byte has a low newline only at the byte itself.
  by_contra behind
  have low : isLow offset table.breaks (table.line offset) = true := isLow_iff.mpr ⟨newline, held, by omega⟩
  unfold line at held low
  cases answer : lowerBound? offset table.breaks with
  | none =>
      rw [(lowerBound?_eq_none_iff sorted).mp answer] at low
      cases low
  | some i =>
      simp only [answer] at held low
      split at held <;> rename_i atByte
      · rw [atByte, Option.some.injEq] at held
        omega
      · rw [if_neg atByte] at low
        have := ((lowerBound?_eq_some_iff sorted).mp answer).2 _ low
        omega

theorem Holds.line_eq {line offset : Nat} (held : table.Holds line offset) : table.line offset = line :=
  (holds_line ascending offset).unique ascending held

end Ascending

/-! ## Positions inside the text -/

theorem getElem?_breaks_ofText (text : String) (line : Nat) :
    (ofText text).breaks[line]? = (Text.offsetsFrom '\n' 0 text.toList)[line]? := by
  simp [ofText, Text.offsetsOf]

theorem size_breaks_ofText (text : String) : (ofText text).breaks.size = text.toList.count '\n' :=
  Text.length_offsetsFrom '\n' text.toList 0

theorem lineStart_ofText {text : String} {line start : Nat}
    (held : (Text.partStarts '\n' 0 text.toList)[line]? = some start) : (ofText text).lineStart line = start := by
  cases line with
  | zero =>
      cases held
      rfl
  | succ line =>
      rw [Text.partStarts, List.getElem?_cons_succ, List.getElem?_map, Option.map_eq_some_iff] at held
      obtain ⟨newline, found, rfl⟩ := held
      rw [← getElem?_breaks_ofText] at found
      exact lineStart_succ found

def byteAt (table : LineTable) (position : LspPosition) : Nat :=
  table.lineStart position.line.toNat + position.character.toNat

section Inside

variable {text : String} {origin : UInt32} {position : LspPosition} (inside : position.Inside text)
include inside

/-- The byte of a position inside the text is one of its line, and not behind the end of the text. -/
theorem holds_byteAt : (ofText text).Holds position.line.toNat ((ofText text).byteAt position) ∧
    (ofText text).byteAt position ≤ Text.byteLength text.toList := by
  have line := inside.line
  have column := inside.character
  have parted : (Text.split '\n' text.toList)[position.line.toNat]? = some _ :=
    List.getElem?_eq_getElem (by rw [Text.length_split]; omega)
  obtain ⟨start, starts, ends, within⟩ := Text.exists_start_of_split 0 parted
  rw [List.getD_eq_getElem?_getD, parted, Option.getD_some] at column
  have byte : (ofText text).byteAt position = start + position.character.toNat := by
    rw [byteAt, lineStart_ofText starts]
  rw [byte]
  refine ⟨⟨?_, ?_, ?_⟩, ?_⟩
  · rw [size_breaks_ofText]
    exact line
  · rw [lineStart_ofText starts]
    omega
  · intro newline found
    rw [getElem?_breaks_ofText] at found
    rw [ends newline found]
    omega
  · omega

/-- A query with the position finds its byte. -/
theorem offset?_of_inside (fits : position.Fits origin) :
    (ofText text).offset? origin (Position.ofLsp origin position) = some ((ofText text).byteAt position) := by
  have found := offset?_ofLsp (holds_byteAt inside).1.inside fits.line fits.character
  rwa [UInt32.ofNat_toNat, UInt32.ofNat_toNat] at found

/-- The byte is shown at the position. -/
theorem toLsp_position_of_inside (fits : position.Fits origin) :
    ((ofText text).position origin origin ((ofText text).byteAt position)).toLsp origin = position := by
  have line : (ofText text).line ((ofText text).byteAt position) = position.line.toNat :=
    (holds_byteAt inside).1.line_eq (ofText_ascending text)
  have column : (ofText text).byteAt position - (ofText text).lineStart position.line.toNat = position.character.toNat :=
    Nat.add_sub_cancel_left _ _
  have shown : (ofText text).Fits origin origin ((ofText text).byteAt position) := by
    constructor
    · rw [line]
      exact fits.line
    · rw [line, column]
      exact fits.character
  rw [toLsp_position shown, line, column, UInt32.ofNat_toNat, UInt32.ofNat_toNat]

end Inside

/-- Positions in order have bytes in order. -/
theorem byteAt_le_byteAt {text : String} {range : LspRange} (inside : range.Inside text) :
    (ofText text).byteAt range.start ≤ (ofText text).byteAt range.stop := by
  rcases inside.ordered with earlier | ⟨sameLine, before⟩
  · have startHeld := (holds_byteAt inside.start).1
    have stopHeld := (holds_byteAt inside.stop).1
    exact Nat.le_of_lt (startHeld.lt_of_lt (ofText_ascending text) stopHeld (UInt32.lt_iff_toNat_lt.mp earlier))
  · rw [byteAt, byteAt, sameLine]
    exact Nat.add_le_add_left (UInt32.le_iff_toNat_le.mp before) _

/-- The span between two bytes of a text that can be addressed is valid and has these ends. -/
theorem isValid_between {start stop : Nat} (ordered : start ≤ stop) (small : stop < 0x8000000000000000) (file : Int64) :
    (Span.mk (Int64.ofNat start) (Int64.ofInt ((stop : Int) - start)) file).isValid = true ∧
      (Int64.ofNat start).toInt = start ∧ (Int64.ofInt ((stop : Int) - start)).toInt = (stop : Int) - start := by
  have first : (Int64.ofNat start).toInt = start := Int64.toInt_ofNat_of_lt (by omega)
  have length : (Int64.ofInt ((stop : Int) - start)).toInt = (stop : Int) - start :=
    Int64.toInt_ofInt_of_le (by omega) (by omega)
  refine ⟨Span.isValid_iff.mpr ?_, first, length⟩
  dsimp only
  omega

/-- **A range inside the text comes back from the span that it selects.** -/
theorem exists_toLsp_of_inside {text : String} (small : Text.byteLength text.toList < 0x8000000000000000)
    {origin : UInt32} {range : LspRange} (inside : range.Inside text) (startFits : range.start.Fits origin)
    (stopFits : range.stop.Fits origin) (file : Int64) :
    ∃ span region, (ofText text).span? origin file (Region.ofLsp origin range) = some span ∧
      (ofText text).region? origin origin span = some region ∧ region.toLsp origin = range := by
  have ordered := byteAt_le_byteAt inside
  have stopInside := (holds_byteAt inside.stop).2
  obtain ⟨valid, first, length⟩ := isValid_between ordered (by omega) file
  refine ⟨_, _, ?_, region?_of_isValid valid, ?_⟩
  · rw [span?, Region.ofLsp, offset?_of_inside inside.start startFits, offset?_of_inside inside.stop stopFits]
    rfl
  · have last : (ofText text).byteAt range.start +
        ((ofText text).byteAt range.stop - (ofText text).byteAt range.start : Int) = (ofText text).byteAt range.stop := by
      omega
    simp only [Region.toLsp, first, length, last, Int.toNat_natCast, toLsp_position_of_inside inside.start startFits,
      toLsp_position_of_inside inside.stop stopFits]

/-! ## Both directions -/

/-- **Rendering and querying are inverse to each other.**  Every span whose rendering fits its words comes back, and so
does every range inside a text that can be addressed. -/
theorem ofLsp_toLsp_inverse (text : String) (origin : UInt32) :
    (∀ span, (ofText text).Shows origin span →
      ∃ region, (ofText text).region? origin origin span = some region ∧
        (ofText text).span? origin span.file (Region.ofLsp origin (region.toLsp origin)) = some span) ∧
    (Text.byteLength text.toList < 0x8000000000000000 →
      ∀ range, LspRange.Inside text range → range.start.Fits origin → range.stop.Fits origin → ∀ file,
        ∃ span region, (ofText text).span? origin file (Region.ofLsp origin range) = some span ∧
          (ofText text).region? origin origin span = some region ∧ region.toLsp origin = range) := by
  constructor
  · intro span shown
    have rendered : (ofText text).region? origin origin span = some _ := region?_of_isValid shown.valid
    exact ⟨_, rendered, span?_ofLsp_toLsp (ofText_ascending text) shown rendered span.file⟩
  · intro small range inside startFits stopFits file
    exact exists_toLsp_of_inside small inside startFits stopFits file

/-- Three lines: one with a character of two bytes, an empty one, and one without a newline. -/
def threeLines : String :=
  "é x;\n\ny"

/-- From behind the wide character, to the newline of the empty line and to the end of the text. -/
theorem ofLsp_toLsp_inverse_threeLines :
    (∃ region, (ofText threeLines).region? 1 1 ⟨2, 4, 0⟩ = some region ∧
      (ofText threeLines).span? 1 0 (Region.ofLsp 1 (region.toLsp 1)) = some ⟨2, 4, 0⟩) ∧
    ∃ span region, (ofText threeLines).span? 1 0 (Region.ofLsp 1 ⟨⟨0, 2⟩, ⟨2, 1⟩⟩) = some span ∧
      (ofText threeLines).region? 1 1 span = some region ∧ region.toLsp 1 = ⟨⟨0, 2⟩, ⟨2, 1⟩⟩ := by
  have start : (ofText threeLines).Fits 1 1 2 := ⟨by decide +kernel, by decide +kernel⟩
  have newline : (ofText threeLines).Fits 1 1 6 := ⟨by decide +kernel, by decide +kernel⟩
  have startInside : LspPosition.Inside threeLines ⟨0, 2⟩ := ⟨by decide +kernel, by decide +kernel⟩
  have stopInside : LspPosition.Inside threeLines ⟨2, 1⟩ := ⟨by decide +kernel, by decide +kernel⟩
  have inside : LspRange.Inside threeLines ⟨⟨0, 2⟩, ⟨2, 1⟩⟩ := ⟨startInside, stopInside, Or.inl (by decide)⟩
  obtain ⟨returns, comesBack⟩ := ofLsp_toLsp_inverse threeLines 1
  exact ⟨returns ⟨2, 4, 0⟩ ⟨by decide, start, newline⟩,
    comesBack (by decide +kernel) _ inside ⟨by decide, by decide⟩ ⟨by decide, by decide⟩ 0⟩

end LineTable

end SolidityNav
