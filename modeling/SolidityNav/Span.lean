/-
# Span -- byte ranges of compiled source

A span is the half-open range of bytes `[start, start + length)` in one file of a compilation.  The compiler writes
it `start:length:file`.  Nodes the compiler made up carry negative components, so a span is any three words, and
the spans that point at real text are singled out by `Span.isValid`.
-/
import SolidityNav.Text.Blank
import SolidityNav.Text.Numeral
import SolidityNav.Text.Quoted
import SolidityNav.Text.Split
import SolidityNav.Word

namespace SolidityNav

set_option autoImplicit false

/-- A range of bytes in the file numbered `file`. -/
structure Span where
  start : Int64
  length : Int64
  file : Int64
deriving DecidableEq, Inhabited

namespace Span

/-- The offset behind the last byte, when it is a word. -/
def stop? (span : Span) : Option Int64 :=
  Word.int64? (span.start.toInt + span.length.toInt)

/-- Whether the span points at real text. -/
def isValid (span : Span) : Bool :=
  0 ≤ span.start && 0 ≤ span.length && span.stop?.isSome

/-- Whether `offset` lies in the span. -/
def contains (span : Span) (offset : Int64) : Bool :=
  match span.stop? with
  | some stop => span.start ≤ offset && offset < stop
  | none => false

/-- A text that is no span. -/
structure ParseError where
  src : String
deriving DecidableEq, Repr

/-- The wording of a failure to read a span. -/
def ParseError.message (error : ParseError) : String :=
  "Invalid source range " ++ Text.quoted error.src ++ ": expected `start:length:fileIndex`"

/-- One component: an integer numeral that is a word, with blanks around it. -/
def component? (text : List Char) : Option Int64 := do
  Word.int64? (← Text.readInt? (Text.trim text))

/-- Reads three components with colons between them. -/
def read? (text : List Char) : Option Span :=
  match Text.split ':' text with
  | [start, length, file] => do
      return ⟨← component? start, ← component? length, ← component? file⟩
  | _ => none

/-- Reads a span; a failure carries the text. -/
def parse (src : String) : Except ParseError Span :=
  match read? src.toList with
  | some span => .ok span
  | none => .error ⟨src⟩

/-- The text of a span. -/
def text (span : Span) : String :=
  String.ofList (Text.writeInt span.start.toInt ++ ':' :: Text.writeInt span.length.toInt ++
    ':' :: Text.writeInt span.file.toInt)

end Span

end SolidityNav
