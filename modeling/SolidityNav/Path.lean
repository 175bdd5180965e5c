/-
# Path -- file paths

A path is a sequence of bytes, most often the UTF-8 form of a text.  Other bytes are shown as a text too, but that text is
another path.

Two sequences may be the same path: what counts are the components.  Repeated slashes, a slash at the end and `.` inside a
path are no components; `..` is one, and so is `.` at the start of a relative path.
-/
import SolidityNav.Text.Split
import SolidityNav.Text.Utf8

namespace SolidityNav

set_option autoImplicit false

/-- A file path as written. -/
structure Path where
  bytes : List UInt8
deriving DecidableEq, Inhabited, Repr

namespace Path

/-- The path that a text spells. -/
def ofText (text : String) : Path :=
  ⟨Text.bytes text.toList⟩

/-- The text that a path is shown as. -/
def text (path : Path) : String :=
  String.ofList (Text.decode path.bytes)

/-- The text that spells a path, if there is one. -/
def text? (path : Path) : Option String :=
  if ofText path.text = path then some path.text else none

def slash : UInt8 := 0x2F

def dot : UInt8 := 0x2E

/-- One step of a path. -/
inductive Component where
  | root
  | here
  | up
  | name (bytes : List UInt8)
deriving DecidableEq, Repr

/-- The component a part between slashes stands for, after the first. -/
def inner? (part : List UInt8) : Option Component :=
  if part = [] ∨ part = [dot] then none
  else if part = [dot, dot] then some .up
  else some (.name part)

/-- Whether the path starts at the root. -/
def isAbsolute (path : Path) : Bool :=
  path.bytes.head? == some slash

/-- The components of a path. -/
def components (path : Path) : List Component :=
  match Text.split slash path.bytes with
  | [] => []
  | first :: parts =>
      let lead : Option Component :=
        if path.isAbsolute then some .root else if first = [dot] then some .here else inner? first
      lead.toList ++ parts.filterMap inner?

/-- Whether two writings are the same path. -/
def same (a b : Path) : Bool :=
  a.components == b.components

/-- The path `path` seen from `base`; an absolute path stays as it is. -/
def join (base path : Path) : Path :=
  if path.isAbsolute || base.bytes.isEmpty then path
  else if base.bytes.getLast? = some slash then ⟨base.bytes ++ path.bytes⟩
  else ⟨base.bytes ++ slash :: path.bytes⟩

end Path

end SolidityNav
