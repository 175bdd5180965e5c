/-
# Location -- where a node is

A location is what navigation hands out: a node's id, kind, name and span, with the path and the positions as far as
they are known.  It is written as a JSON record and read back from one.  A path that no text spells cannot be written.
-/
import SolidityNav.Ast.NodeType
import SolidityNav.FileUri
import SolidityNav.Json.Decode
import SolidityNav.Position
import SolidityNav.Span

namespace SolidityNav

set_option autoImplicit false

open SolidityNav.Ast (NodeId NodeType)
open SolidityNav.Json (Decoder Slot)

/-- A node and the place it is at. -/
structure Location where
  id : NodeId
  nodeType : NodeType
  name : Option String
  src : Span
  path : Option Path
  region : Option Region

/-- A place in the terms of the Language Server Protocol. -/
structure LspLocation where
  uri : String
  range : LspRange

/-- The place of a location, when its path is absolute and its positions are known. -/
def Location.toLsp? (location : Location) (origin : UInt32) : Option LspLocation := do
  let path ← location.path
  let region ← location.region
  return { uri := ← FileUri.ofPath? path, range := region.toLsp origin }

/-! ## Writing -/

def Position.toJson (position : Position) : Json :=
  .object [("line", .nat position.line.toNat), ("character", .nat position.character.toNat)]

def Region.toJson (region : Region) : Json :=
  .object [("start", region.start.toJson), ("end", region.stop.toJson)]

def Span.toJson (span : Span) : Json :=
  .object [
    ("start", .int span.start.toInt), ("length", .int span.length.toInt), ("fileIndex", .int span.file.toInt)]

def Location.toJson? (location : Location) : Option Json := do
  let path ← location.path.mapM Path.text?
  return .object [
    ("id", .int location.id.toInt),
    ("node_type", .string location.nodeType.tag),
    ("name", Json.option .string location.name),
    ("src", location.src.toJson),
    ("path", Json.option .string path),
    ("range", Json.option Region.toJson location.region)]

/-! ## Reading -/

namespace Position

structure Draft where
  line : Option UInt32 := none
  character : Option UInt32 := none

def decoder : Decoder Position :=
  Decoder.record
    [ Slot.of "line" Draft.line (fun draft line => { draft with line := some line }) Decoder.uint32 false,
      Slot.of "character" Draft.character (fun draft character => { draft with character := some character })
        Decoder.uint32 false ]
    {} fun draft => do return ⟨← draft.line, ← draft.character⟩

end Position

namespace Region

structure Draft where
  start : Option Position := none
  stop : Option Position := none

def decoder : Decoder Region :=
  Decoder.record
    [ Slot.of "start" Draft.start (fun draft start => { draft with start := some start }) Position.decoder false,
      Slot.of "end" Draft.stop (fun draft stop => { draft with stop := some stop }) Position.decoder false ]
    {} fun draft => do return ⟨← draft.start, ← draft.stop⟩

end Region

namespace Span

structure Draft where
  start : Option Int64 := none
  length : Option Int64 := none
  file : Option Int64 := none

def decoder : Decoder Span :=
  Decoder.record
    [ Slot.of "start" Draft.start (fun draft start => { draft with start := some start }) Decoder.int64 false,
      Slot.of "length" Draft.length (fun draft length => { draft with length := some length }) Decoder.int64 false,
      Slot.of "fileIndex" Draft.file (fun draft file => { draft with file := some file }) Decoder.int64 false ]
    {} fun draft => do return ⟨← draft.start, ← draft.length, ← draft.file⟩

end Span

namespace Location

structure Draft where
  id : Option NodeId := none
  nodeType : Option NodeType := none
  name : Option (Option String) := none
  src : Option Span := none
  path : Option (Option Path) := none
  region : Option (Option Region) := none

/-- The kind of a node, by its tag. -/
def nodeTypeDecoder : Decoder NodeType := fun room doc =>
  (Decoder.string room doc).map NodeType.ofTag

def pathDecoder : Decoder Path := fun room doc =>
  (Decoder.string room doc).map Path.ofText

/-- Reads a location; name, path and positions may be left out of the object form. -/
def decoder : Decoder Location :=
  Decoder.record
    [ Slot.of "id" Draft.id (fun draft id => { draft with id := some id }) Decoder.int64 false,
      Slot.of "node_type" Draft.nodeType (fun draft kind => { draft with nodeType := some kind })
        nodeTypeDecoder false,
      Slot.of "name" Draft.name (fun draft name => { draft with name := some name })
        (Decoder.option Decoder.string) false,
      Slot.of "src" Draft.src (fun draft src => { draft with src := some src }) Span.decoder false,
      Slot.of "path" Draft.path (fun draft path => { draft with path := some path })
        (Decoder.option pathDecoder) false,
      Slot.of "range" Draft.region (fun draft region => { draft with region := some region })
        (Decoder.option Region.decoder) false ]
    {} fun draft => do
      return {
        id := ← draft.id
        nodeType := ← draft.nodeType
        name := draft.name.join
        src := ← draft.src
        path := draft.path.join
        region := draft.region.join }

/-- The location a value describes. -/
def ofJson (value : Json) : Except Json.Fault Location :=
  decoder.fromValue value

end Location

end SolidityNav
