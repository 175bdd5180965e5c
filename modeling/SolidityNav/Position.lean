/-
# Position -- editor coordinates

A position is a line and a column, both 32-bit words that count from some origin.  Columns count bytes.  Positions
that are shown count both coordinates from the origin; positions in queries do so on the first line only, and
count columns from zero on every later line.  The zero-origin coordinates of the Language Server Protocol are a type
of their own, so that the two directions of conversion cannot be mixed up: `ofLsp` makes queries, `toLsp` takes
what is shown.
-/
import SolidityNav.Word

namespace SolidityNav

set_option autoImplicit false

/-- The origin of coordinates unless configured otherwise. -/
def defaultOrigin : UInt32 := 1

/-- A line and a column. -/
structure Position where
  line : UInt32
  character : UInt32
deriving DecidableEq, Inhabited

/-- The stretch between two positions. -/
structure Region where
  start : Position
  stop : Position
deriving DecidableEq, Inhabited

/-- A zero-origin line and column of the Language Server Protocol. -/
structure LspPosition where
  line : UInt32
  character : UInt32
deriving DecidableEq, Inhabited

/-- The stretch between two positions of the Language Server Protocol. -/
structure LspRange where
  start : LspPosition
  stop : LspPosition
deriving DecidableEq, Inhabited

namespace Position

/-- The query position for a zero-origin one: the column is shifted on the first line only. -/
def ofLsp (origin : UInt32) (position : LspPosition) : Position where
  line := position.line + origin
  character := if position.line = 0 then position.character + origin else position.character

/-- The zero-origin position for a shown one; coordinates below the origin become zero. -/
def toLsp (origin : UInt32) (position : Position) : LspPosition where
  line := Word.monus position.line origin
  character := Word.monus position.character origin

end Position

namespace Region

def ofLsp (origin : UInt32) (range : LspRange) : Region where
  start := Position.ofLsp origin range.start
  stop := Position.ofLsp origin range.stop

def toLsp (origin : UInt32) (region : Region) : LspRange where
  start := region.start.toLsp origin
  stop := region.stop.toLsp origin

end Region

end SolidityNav
