/-
# Workspace.Config -- settings of a workspace

Settings are a JSON record all of whose fields have defaults.
-/
import SolidityNav.Error
import SolidityNav.Json.Decode
import SolidityNav.Position

namespace SolidityNav.Workspace

set_option autoImplicit false

open SolidityNav.Json (Decoder Slot)

/-- The settings of a workspace. -/
structure Config where
  /-- Keep the index of a file whose content and compiler did not change. -/
  useCache : Bool := true
  /-- The origin of the lines and columns that go in and out. -/
  origin : UInt32 := defaultOrigin
  /-- Keys that replace or follow those of the generated compiler input. -/
  standardInput : Json := .null

namespace Config

/-- Whether the settings are the defaults. -/
def isDefault (config : Config) : Bool :=
  config.useCache && config.origin == defaultOrigin && config.standardInput.isNull

def toJson (config : Config) : Json :=
  .object [
    ("useCache", .bool config.useCache),
    ("lineOrigin", .nat config.origin.toNat),
    ("standardInput", config.standardInput)]

structure Draft where
  useCache : Option Bool := none
  origin : Option UInt32 := none
  standardInput : Option Json := none

def decoder : Decoder Config :=
  Decoder.record
    [ Slot.of "useCache" Draft.useCache (fun draft useCache => { draft with useCache := some useCache })
        Decoder.bool true,
      Slot.of "lineOrigin" Draft.origin (fun draft origin => { draft with origin := some origin })
        Decoder.uint32 true,
      Slot.of "standardInput" Draft.standardInput (fun draft input => { draft with standardInput := some input })
        Decoder.json true ]
    {} fun draft =>
      some {
        useCache := draft.useCache.getD true
        origin := draft.origin.getD defaultOrigin
        standardInput := draft.standardInput.getD .null }

/-- The settings a text describes. -/
def ofText (text : String) : Except Failure Config :=
  (decoder.fromText Json.Room.forText text).mapError .json

end Config

end SolidityNav.Workspace
