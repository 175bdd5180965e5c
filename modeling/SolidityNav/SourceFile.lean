/-
# SourceFile -- an indexed source file

A source file carries the text that was compiled, its number in the compilation and the paths behind all the numbers,
and its index.  The fingerprint and the line table are computed once from the text; the type says that they are those
of the text.
-/
import SolidityNav.Fingerprint
import SolidityNav.Index
import SolidityNav.LineTable
import SolidityNav.Path

namespace SolidityNav

set_option autoImplicit false

/-- A compiled source file with its index. -/
structure SourceFile where
  path : Path
  content : String
  fingerprint : UInt64
  fingerprint_eq : fingerprint = Fingerprint.ofText content := by rfl
  /-- The version of the compiler that compiled the content. -/
  version : String
  /-- The number of the file in its compilation. -/
  number : Int64
  /-- The paths of the files of the compilation, by number. -/
  sources : List (Option Path)
  lines : LineTable
  lines_eq : lines = LineTable.ofText content := by rfl
  /-- The origin of lines and columns. -/
  origin : UInt32
  index : Index

namespace SourceFile

/-- The source file of a compiled text. -/
def make (path : Path) (content version : String) (number : Int64) (sources : List (Option Path))
    (origin : UInt32) (index : Index) : SourceFile where
  path := path
  content := content
  fingerprint := Fingerprint.ofText content
  version := version
  number := number
  sources := sources
  lines := LineTable.ofText content
  origin := origin
  index := index

/-- The path of the file with a given number in this compilation. -/
def sourcePath? (file : SourceFile) (number : Int64) : Option Path :=
  if 0 ≤ number then (file.sources[number.toInt.toNat]?).join else none

/-- Whether the index serves for a text and a compiler version.  Fingerprints are compared before texts. -/
def isCurrent (file : SourceFile) (content version : String) : Bool :=
  file.fingerprint == Fingerprint.ofText content && file.content == content && file.version == version

/-- The text of a span; `none` unless it is valid, inside the file and cuts no character. -/
def text? (file : SourceFile) (span : Span) : Option String :=
  if span.isValid then
    (Text.byteSlice? file.content.toList span.start.toInt.toNat span.length.toInt.toNat).map String.ofList
  else none

/-- The bytes of a selection. -/
def span? (file : SourceFile) (selection : Region) : Option Span :=
  file.lines.span? file.origin file.number selection

/-- The byte at a query position. -/
def offset? (file : SourceFile) (position : Position) : Option Nat :=
  file.lines.offset? file.origin position

/-- The positions around a span. -/
def region? (file : SourceFile) (span : Span) : Option Region :=
  file.lines.region? file.origin file.origin span

end SourceFile

end SolidityNav
