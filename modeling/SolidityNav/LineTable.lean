/-
# LineTable -- bytes and lines

The line table of a text is the ascending array of the byte offsets of its newlines.  It turns byte offsets into
positions and back.  A newline belongs to the line it ends.  Lines and columns are cut to 32 bits before the
origin is added.
-/
import SolidityNav.LowerBound
import SolidityNav.Position
import SolidityNav.Span
import SolidityNav.Text.Bytes

namespace SolidityNav

set_option autoImplicit false

/-- The byte offsets of the newlines of a text, ascending. -/
structure LineTable where
  breaks : Array Nat
deriving DecidableEq, Inhabited

namespace LineTable

/-- The line table of a text. -/
def ofText (text : String) : LineTable :=
  ⟨(Text.offsetsOf '\n' text.toList).toArray⟩

/-- The number of the line of a byte, from zero. -/
def line (table : LineTable) (offset : Nat) : Nat :=
  match lowerBound? offset table.breaks with
  | some i => if table.breaks[i]? = some offset then i else i + 1
  | none => 0

/-- The offset of the first byte of a line. -/
def lineStart (table : LineTable) : Nat → Nat
  | 0 => 0
  | line + 1 => table.breaks.getD line 0 + 1

/-- The position of a byte, shown from the given origins. -/
def position (table : LineTable) (lineOrigin columnOrigin : UInt32) (offset : Nat) : Position :=
  let line := table.line offset
  { line := UInt32.ofNat line + lineOrigin
    character := UInt32.ofNat (offset - table.lineStart line) + columnOrigin }

/-- The byte at a query position; `none` outside the file. -/
def offset? (table : LineTable) (origin : UInt32) (position : Position) : Option Nat :=
  if position.line < origin then none
  else if position.line = origin then
    if position.character < origin then none else some (position.character - origin).toNat
  else
    (table.breaks[(position.line - origin - 1).toNat]?).map fun newline =>
      newline + 1 + position.character.toNat

/-- The bytes of a selection in the file numbered `file`; the length is negative when it is reversed. -/
def span? (table : LineTable) (origin : UInt32) (file : Int64) (selection : Region) : Option Span := do
  let start ← table.offset? origin selection.start
  let stop ← table.offset? origin selection.stop
  return ⟨Int64.ofNat start, Int64.ofInt ((stop : Int) - start), file⟩

/-- The positions around a span; `none` unless the span is valid. -/
def region? (table : LineTable) (lineOrigin columnOrigin : UInt32) (span : Span) : Option Region := do
  if !span.isValid then none
  let stop ← span.stop?
  return {
    start := table.position lineOrigin columnOrigin span.start.toInt.toNat
    stop := table.position lineOrigin columnOrigin stop.toInt.toNat }

end LineTable

end SolidityNav
