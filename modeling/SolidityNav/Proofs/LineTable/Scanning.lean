/-
# Proofs.LineTable.Scanning -- positions are what a scan of the text counts

The line of a byte is found by halving the table of newlines.  A reader of the text would count instead: the newlines before
the byte, and the bytes behind the last of them.  Both give the same position (`line_eq_count`, `column_append`).

The table holds newline characters and an offset counts bytes, so the scan runs over the UTF-8 bytes of the text.  No byte of
another character is a newline (`newline_not_mem_utf8EncodeChar`), and so the offsets of the table are those of the newline
bytes (`countP_offsetsFrom`).  An offset may lie inside a character and behind the end of the text.

As the offset grows, the position moves strictly forward (`before_position`).
-/
import SolidityNav.Proofs.Coordinates
import SolidityNav.Proofs.Text.Utf8

namespace SolidityNav

set_option autoImplicit false

namespace Text

/-! ## Newline bytes -/

theorem count_newline_utf8EncodeChar (c : Char) : (String.utf8EncodeChar c).count 0x0A = [c].count '\n' := by
  by_cases newline : c = '\n'
  · subst newline
    decide
  · have notIn : '\n' ∉ [c] := by simpa using Ne.symm newline
    rw [List.count_eq_zero.mpr (newline_not_mem_utf8EncodeChar newline), List.count_eq_zero.mpr notIn]

theorem count_newline_bytes (text : List Char) : (bytes text).count 0x0A = text.count '\n' := by
  induction text with
  | nil => rfl
  | cons c rest ih =>
      rw [bytes_cons, List.count_append, ih, count_newline_utf8EncodeChar, ← List.count_append, List.singleton_append]

theorem countP_offsetsFrom_of_le {c : Char} {text : List Char} {start bound : Nat} (low : bound ≤ start) :
    (offsetsFrom c start text).countP (· < bound) = 0 := by
  refine List.countP_eq_zero.mpr fun place member => ?_
  have := offsetsFrom_ge member
  simpa using by omega

/-- **The newlines before an offset are the newline bytes before it**, also when the offset lies inside a character. -/
theorem countP_offsetsFrom (text : List Char) (start offset : Nat) :
    (offsetsFrom '\n' start text).countP (· < start + offset) = ((bytes text).take offset).count 0x0A := by
  induction text generalizing start offset with
  | nil => simp [offsetsFrom, bytes]
  | cons c rest ih =>
      rw [bytes_cons, List.take_append, List.count_append, String.length_utf8EncodeChar]
      by_cases whole : c.utf8Size ≤ offset
      · -- The character lies before the offset, and the rest is counted from behind it.
        obtain ⟨further, rfl⟩ := Nat.exists_eq_add_of_le whole
        have later := ih (start + c.utf8Size) further
        rw [List.take_of_length_le (by simp), Nat.add_sub_cancel_left, ← later, count_newline_utf8EncodeChar, offsetsFrom,
          ← Nat.add_assoc]
        by_cases newline : c = '\n'
        · have wide := c.utf8Size_pos
          rw [if_pos newline, List.countP_cons_of_pos (by simpa using by omega), newline]
          simp [Nat.add_comm]
        · rw [if_neg newline, List.count_eq_zero.mpr (by simpa using Ne.symm newline), Nat.zero_add]
      · -- The offset lies in the character, so it is before all that comes after the character.
        have noneLater : (offsetsFrom '\n' (start + c.utf8Size) rest).countP (· < start + offset) = 0 :=
          countP_offsetsFrom_of_le (by omega)
        have nothing : ((bytes rest).take (offset - c.utf8Size)).count 0x0A = 0 := by
          rw [Nat.sub_eq_zero_of_le (by omega), List.take_zero, List.count_nil]
        rw [nothing, offsetsFrom]
        by_cases newline : c = '\n'
        · subst newline
          obtain rfl : offset = 0 := by
            have : '\n'.utf8Size = 1 := rfl
            omega
          simpa using noneLater
        · have inChar : ((String.utf8EncodeChar c).take offset).count 0x0A = 0 :=
            List.count_eq_zero.mpr fun member => newline_not_mem_utf8EncodeChar newline (List.mem_of_mem_take member)
          rw [if_neg newline, noneLater, inChar]

theorem offsetsFrom_append (c : Char) (start : Nat) (before after : List Char) :
    offsetsFrom c start (before ++ after) =
      offsetsFrom c start before ++ offsetsFrom c (start + byteLength before) after := by
  induction before generalizing start with
  | nil => simp [offsetsFrom]
  | cons d rest ih =>
      rw [List.cons_append, offsetsFrom, offsetsFrom, ih, byteLength_cons, Nat.add_assoc]
      split <;> rfl

/-- A newline stands in the table behind all that come before it. -/
theorem getElem?_offsetsFrom_newline (before after : List Char) :
    (offsetsFrom '\n' 0 (before ++ '\n' :: after))[before.count '\n']? = some (byteLength before) := by
  rw [offsetsFrom_append, List.getElem?_append_right (by rw [length_offsetsFrom]), length_offsetsFrom, Nat.sub_self,
    offsetsFrom, if_pos rfl, List.getElem?_cons_zero, Nat.zero_add]

/-! ## The last line -/

/-- What stands behind the last newline, which is the whole text if there is none. -/
def lastLine (text : String) : String :=
  String.ofList (text.toList.reverse.takeWhile (· != '\n')).reverse

theorem lastLine_eq_or (text : String) :
    (text.toList.count '\n' = 0 ∧ lastLine text = text) ∨
      ∃ front, text.toList = front ++ '\n' :: (lastLine text).toList ∧
        text.toList.count '\n' = front.count '\n' + 1 := by
  have parted : text.toList =
      (text.toList.reverse.dropWhile (· != '\n')).reverse ++ (lastLine text).toList := by
    rw [lastLine, String.toList_ofList, ← List.reverse_append, List.takeWhile_append_dropWhile, List.reverse_reverse]
  have free : (lastLine text).toList.count '\n' = 0 := by
    rw [List.count_eq_zero, lastLine, String.toList_ofList, List.mem_reverse]
    intro member
    simpa using List.mem_takeWhile_imp member
  cases kept : text.toList.reverse.dropWhile (· != '\n') with
  | nil =>
      rw [kept, List.reverse_nil, List.nil_append] at parted
      have same : lastLine text = text := String.toList_inj.mp parted.symm
      rw [same] at free
      exact Or.inl ⟨free, same⟩
  | cons c front =>
      have newline : c = '\n' := by
        have := List.head?_dropWhile_not (· != '\n') text.toList.reverse
        simpa [kept] using this
      subst newline
      rw [kept, List.reverse_cons, List.append_assoc, List.singleton_append] at parted
      have counted := congrArg (List.count '\n') parted
      rw [List.count_append, List.count_cons_self, free] at counted
      exact Or.inr ⟨front.reverse, parted, counted⟩

end Text

namespace LineTable

/-! ## Lines -/

section Ascending

variable {table : LineTable} (ascending : table.breaks.toList.Pairwise (· < ·))
include ascending

/-- The newlines before a byte are those of the lines before its line. -/
theorem newline_lt_iff {i newline : Nat} (held : table.breaks[i]? = some newline) (offset : Nat) :
    newline < offset ↔ i < table.line offset := by
  have sorted : table.breaks.toList.Pairwise (· ≤ ·) := ascending.imp Nat.le_of_lt
  obtain ⟨inside, rfl⟩ := Array.getElem?_eq_some_iff.mp held
  have holds := holds_line ascending offset
  constructor
  · intro before
    by_contra behind
    have lineInside : table.line offset < table.breaks.size := by omega
    have := holds.stop _ (Array.getElem?_eq_getElem lineInside)
    have ordered := getElem_le_of_le sorted (by omega : table.line offset ≤ i) inside
    omega
  · intro earlier
    have start := holds.start
    have lineInside := holds.inside
    obtain ⟨previous, same⟩ : ∃ previous, table.line offset = previous + 1 := ⟨table.line offset - 1, by omega⟩
    have previousInside : previous < table.breaks.size := by omega
    rw [same, lineStart_succ (Array.getElem?_eq_getElem previousInside)] at start
    have ordered := getElem_le_of_le sorted (by omega : i ≤ previous) previousInside
    omega

theorem line_eq_countP (offset : Nat) : table.line offset = table.breaks.toList.countP (· < offset) := by
  have inside := (holds_line ascending offset).inside
  have parted := List.take_append_drop (table.line offset) table.breaks.toList
  have before : (table.breaks.toList.take (table.line offset)).countP (· < offset) = table.line offset := by
    rw [List.countP_eq_length.mpr, List.length_take, Array.length_toList, Nat.min_eq_left inside]
    intro newline member
    obtain ⟨i, found⟩ := List.getElem?_of_mem member
    rw [List.getElem?_take] at found
    split at found
    · rename_i earlier
      rw [Array.getElem?_toList] at found
      simpa using (newline_lt_iff ascending found offset).mpr earlier
    · cases found
  have behind : (table.breaks.toList.drop (table.line offset)).countP (· < offset) = 0 := by
    refine List.countP_eq_zero.mpr fun newline member => ?_
    obtain ⟨i, found⟩ := List.getElem?_of_mem member
    rw [List.getElem?_drop, Array.getElem?_toList] at found
    have := mt (newline_lt_iff ascending found offset).mp (by omega)
    simpa using this
  rw [← parted, List.countP_append, before, behind, Nat.add_zero]

end Ascending

/-- **The line of a byte is the number of newline bytes before it.** -/
theorem line_eq_count (text : String) (offset : Nat) :
    (ofText text).line offset = (text.toUTF8.data.toList.take offset).count 0x0A := by
  have counted := Text.countP_offsetsFrom text.toList 0 offset
  rw [Nat.zero_add, Text.bytes_toList] at counted
  rw [line_eq_countP (ofText_ascending text), ← counted]
  rfl

/-- Behind a piece of the text, the line is the number of newlines in the piece. -/
theorem line_append (before after : String) :
    (ofText (before ++ after)).line before.utf8ByteSize = before.toList.count '\n' := by
  rw [line_eq_count, ← Text.bytes_toList, String.toList_append, Text.bytes_append, Text.utf8ByteSize_eq_byteLength,
    ← Text.length_bytes, List.take_left, Text.count_newline_bytes]

/-- Behind a piece of the text, the column is the length of its last line. -/
theorem column_append (before after : String) :
    before.utf8ByteSize - (ofText (before ++ after)).lineStart (before.toList.count '\n') =
      (Text.lastLine before).utf8ByteSize := by
  rcases Text.lastLine_eq_or before with ⟨unbroken, whole⟩ | ⟨front, parted, counted⟩
  · rw [unbroken, whole]
    rfl
  · have newline : (ofText (before ++ after)).breaks[front.count '\n']? = some (Text.byteLength front) := by
      rw [getElem?_breaks_ofText, String.toList_append, parted, List.append_assoc, List.cons_append]
      exact Text.getElem?_offsetsFrom_newline front _
    have wide : '\n'.utf8Size = 1 := rfl
    rw [counted, lineStart_succ newline, Text.utf8ByteSize_eq_byteLength, Text.utf8ByteSize_eq_byteLength, parted,
      Text.byteLength_append, Text.byteLength_cons, wide]
    omega

/-! ## Shown positions -/

theorem toNat_position {table : LineTable} {lineOrigin columnOrigin : UInt32} {offset : Nat}
    (fits : table.Fits lineOrigin columnOrigin offset) :
    (table.position lineOrigin columnOrigin offset).line.toNat = table.line offset + lineOrigin.toNat ∧
      (table.position lineOrigin columnOrigin offset).character.toNat =
        offset - table.lineStart (table.line offset) + columnOrigin.toNat :=
  ⟨Word.toNat_ofNat_add fits.line, Word.toNat_ofNat_add fits.column⟩

end LineTable

def Position.Before (position other : Position) : Prop :=
  position.line < other.line ∨ position.line = other.line ∧ position.character < other.character

namespace LineTable

/-- A later byte is not on an earlier line. -/
theorem line_le_line {table : LineTable} (ascending : table.breaks.toList.Pairwise (· < ·)) {first second : Nat}
    (ordered : first < second) : table.line first ≤ table.line second := by
  by_contra earlier
  have := (holds_line ascending second).lt_of_lt ascending (holds_line ascending first) (by omega)
  omega

/-- **A later byte is shown at a later position.** -/
theorem before_position {table : LineTable} (ascending : table.breaks.toList.Pairwise (· < ·))
    {lineOrigin columnOrigin : UInt32} {first second : Nat} (ordered : first < second)
    (firstFits : table.Fits lineOrigin columnOrigin first)
    (secondFits : table.Fits lineOrigin columnOrigin second) :
    (table.position lineOrigin columnOrigin first).Before (table.position lineOrigin columnOrigin second) := by
  obtain ⟨firstLine, firstColumn⟩ := toNat_position firstFits
  obtain ⟨secondLine, secondColumn⟩ := toNat_position secondFits
  rw [Position.Before, UInt32.lt_iff_toNat_lt, UInt32.lt_iff_toNat_lt, ← UInt32.toNat_inj, firstLine, firstColumn,
    secondLine, secondColumn]
  rcases Nat.lt_or_eq_of_le (line_le_line ascending ordered) with earlier | same
  · exact Or.inl (by omega)
  · -- On one line both columns count from the same byte, and neither byte lies before it.
    have start := (lineStart_line_le ascending first).1
    rw [← same]
    exact Or.inr ⟨rfl, by omega⟩

/-- **A position is what a scan of the text counts.**  Behind a piece of the text these are the newlines of the piece and the
bytes of its last line; before any byte, also behind the end of the text, the newline bytes before it.  No byte lies before
its line, and later bytes have later positions. -/
theorem position_eq_scan (lineOrigin columnOrigin : UInt32) :
    (∀ before after : String,
      before.toList.count '\n' + lineOrigin.toNat < UInt32.size →
      (Text.lastLine before).utf8ByteSize + columnOrigin.toNat < UInt32.size →
      ((ofText (before ++ after)).position lineOrigin columnOrigin before.utf8ByteSize).line.toNat =
          lineOrigin.toNat + before.toList.count '\n' ∧
        ((ofText (before ++ after)).position lineOrigin columnOrigin before.utf8ByteSize).character.toNat =
          columnOrigin.toNat + (Text.lastLine before).utf8ByteSize) ∧
    ∀ text : String,
      (∀ offset,
        (ofText text).line offset = (text.toUTF8.data.toList.take offset).count 0x0A ∧
          (ofText text).lineStart ((ofText text).line offset) ≤ offset ∧
          ((ofText text).Fits lineOrigin columnOrigin offset →
            ((ofText text).position lineOrigin columnOrigin offset).line.toNat =
                lineOrigin.toNat + (text.toUTF8.data.toList.take offset).count 0x0A ∧
              ((ofText text).position lineOrigin columnOrigin offset).character.toNat +
                  (ofText text).lineStart ((ofText text).line offset) = columnOrigin.toNat + offset)) ∧
      ∀ first second, first < second → (ofText text).Fits lineOrigin columnOrigin first →
        (ofText text).Fits lineOrigin columnOrigin second →
        ((ofText text).position lineOrigin columnOrigin first).Before
          ((ofText text).position lineOrigin columnOrigin second) := by
  refine ⟨fun before after lineFits columnFits => ?_, fun text => ⟨fun offset => ?_, fun first second => ?_⟩⟩
  · have line := line_append before after
    have column := column_append before after
    have fits : (ofText (before ++ after)).Fits lineOrigin columnOrigin before.utf8ByteSize := by
      constructor
      · rw [line]
        exact lineFits
      · rw [line, column]
        exact columnFits
    have shown := toNat_position fits
    rw [line, column] at shown
    exact ⟨shown.1.trans (Nat.add_comm _ _), shown.2.trans (Nat.add_comm _ _)⟩
  · have start := (lineStart_line_le (ofText_ascending text) offset).1
    refine ⟨line_eq_count text offset, start, fun fits => ?_⟩
    obtain ⟨line, column⟩ := toNat_position fits
    rw [← line_eq_count text offset]
    omega
  · exact before_position (ofText_ascending text)

/-- A newline at the start, another one behind it, a character of two bytes, and a line without a newline. -/
def newlineFirst : String :=
  "\n\né\nx"

/-- Behind the wide character, at both newlines in front, and behind the end of the text. -/
theorem position_eq_scan_newlineFirst :
    (((ofText ("\n\né" ++ "\nx")).position 1 0 "\n\né".utf8ByteSize).line.toNat = 3 ∧
      ((ofText ("\n\né" ++ "\nx")).position 1 0 "\n\né".utf8ByteSize).character.toNat = 2) ∧
    (ofText newlineFirst).line 9 = 3 ∧
    ((ofText newlineFirst).position 1 0 9).line.toNat = 4 ∧
    ((ofText newlineFirst).position 1 0 0).Before ((ofText newlineFirst).position 1 0 1) ∧
    ((ofText newlineFirst).position 1 0 4).Before ((ofText newlineFirst).position 1 0 9) := by
  have fits : ∀ offset ∈ [0, 1, 4, 9], (ofText newlineFirst).Fits 1 0 offset := by
    intro offset member
    have line : ∀ offset ∈ [0, 1, 4, 9], (ofText newlineFirst).line offset + 1 < UInt32.size := by decide +kernel
    have column : ∀ offset ∈ [0, 1, 4, 9],
        offset - (ofText newlineFirst).lineStart ((ofText newlineFirst).line offset) + 0 < UInt32.size := by
      decide +kernel
    exact ⟨line offset member, column offset member⟩
  obtain ⟨atPiece, atByte⟩ := position_eq_scan 1 0
  obtain ⟨counted, forward⟩ := atByte newlineFirst
  have piece := atPiece "\n\né" "\nx" (by decide +kernel) (by decide +kernel)
  have behind := (counted 9).2.2 (fits 9 (by decide))
  have pieceLine : (1 : UInt32).toNat + "\n\né".toList.count '\n' = 3 := by decide +kernel
  have pieceColumn : (0 : UInt32).toNat + (Text.lastLine "\n\né").utf8ByteSize = 2 := by decide +kernel
  have newlines : (newlineFirst.toUTF8.data.toList.take 9).count 0x0A = 3 := by decide +kernel
  rw [pieceLine, pieceColumn] at piece
  rw [newlines] at behind
  refine ⟨piece, (counted 9).1.trans newlines, behind.1, ?_, ?_⟩
  · exact forward 0 1 (by decide) (fits 0 (by decide)) (fits 1 (by decide))
  · exact forward 4 9 (by decide) (fits 4 (by decide)) (fits 9 (by decide))

end LineTable

end SolidityNav
