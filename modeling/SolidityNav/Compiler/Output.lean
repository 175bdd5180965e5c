/-
# Compiler.Output -- what the compiler answers

Of a standard-JSON answer the sources with their ASTs and the diagnostics are read; everything else is skipped.  The
compiler numbers its sources, and spans refer to files by these numbers: `sourceList?` leads back from them to paths.
-/
import SolidityNav.Error
import SolidityNav.Json.Decode
import SolidityNav.Path

namespace SolidityNav.Compiler

set_option autoImplicit false

open SolidityNav.Json (Decoder Slot)

/-- A source of a compilation. -/
structure Source where
  /-- The number of the file in the compilation. -/
  id : Int64
  ast : Option Json

/-- A message of the compiler. -/
structure Diagnostic where
  severity : String
  kind : String
  message : String
  formatted : Option String
deriving DecidableEq

def Diagnostic.isError (diagnostic : Diagnostic) : Bool :=
  diagnostic.severity == "error"

/-- The answer of a compiler. -/
structure Output where
  sources : Table String Source
  diagnostics : List Diagnostic

namespace Output

/-- The source with exactly the text that the path is shown as. -/
def source? (output : Output) (path : Path) : Option Source :=
  Table.find? path.text output.sources

/-- Whether a diagnostic is an error. -/
def hasErrors (output : Output) : Bool :=
  output.diagnostics.any Diagnostic.isError

/-- The length that a list of paths cannot exceed: its entries take 24 bytes each, and a list less than `2 ^ 63`. -/
def longestList : Nat :=
  0x7FFFFFFFFFFFFFFF / 24

/-- Puts a path at a place of a list that grows as needed; `none` when it cannot grow so far. -/
def place? (list : List (Option Path)) (i : Nat) (path : Path) : Option (List (Option Path)) :=
  if i < longestList then some ((list ++ List.replicate (i + 1 - list.length) none).set i (some path)) else none

/-- The paths of the sources with an AST, by number; the last source with a number wins. -/
def sourceList? (output : Output) : Option (List (Option Path)) :=
  output.sources.foldlM
    (fun list (key, source) =>
      if 0 ≤ source.id && source.ast.isSome then place? list source.id.toInt.toNat (.ofText key) else some list)
    []

end Output

/-! ## Reading -/

structure Source.Draft where
  id : Option Int64 := none
  ast : Option (Option Json) := none

def Source.decoder : Decoder Source :=
  Decoder.record
    [ Slot.of "id" Draft.id (fun draft id => { draft with id := some id }) Decoder.int64 false,
      Slot.of "ast" Draft.ast (fun draft ast => { draft with ast := some ast }) (Decoder.option Decoder.json) true ]
    {} fun draft => do return ⟨← draft.id, draft.ast.join⟩

structure Diagnostic.Draft where
  severity : Option String := none
  kind : Option String := none
  message : Option String := none
  formatted : Option (Option String) := none

def Diagnostic.decoder : Decoder Diagnostic :=
  Decoder.record
    [ Slot.of "severity" Draft.severity (fun draft severity => { draft with severity := some severity })
        Decoder.string true,
      Slot.of "type" Draft.kind (fun draft kind => { draft with kind := some kind }) Decoder.string true,
      Slot.of "message" Draft.message (fun draft message => { draft with message := some message })
        Decoder.string true,
      Slot.of "formattedMessage" Draft.formatted (fun draft formatted => { draft with formatted := some formatted })
        (Decoder.option Decoder.string) true ]
    {} fun draft =>
      some ⟨draft.severity.getD "", draft.kind.getD "", draft.message.getD "", draft.formatted.join⟩

structure Output.Draft where
  sources : Option (Table String Source) := none
  diagnostics : Option (List Diagnostic) := none

def Output.decoder : Decoder Output :=
  Decoder.record
    [ Slot.of "sources" Draft.sources (fun draft sources => { draft with sources := some sources })
        (Decoder.table Source.decoder) true,
      Slot.of "errors" Draft.diagnostics (fun draft diagnostics => { draft with diagnostics := some diagnostics })
        (Decoder.list Diagnostic.decoder) true ]
    {} fun draft => some ⟨draft.sources.getD [], draft.diagnostics.getD []⟩

/-- The answer a value describes. -/
def Output.ofJson (value : Json) : Except Failure Output :=
  (decoder.fromValue value).mapError .json

/-- The answer a text describes. -/
def Output.ofText (text : String) : Except Failure Output :=
  (decoder.fromText Json.Room.forText text).mapError .json

end SolidityNav.Compiler
