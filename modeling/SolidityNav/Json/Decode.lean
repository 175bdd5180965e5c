/-
# Json.Decode -- reading values and records from documents

Two ways to go through a document: `Doc.skip` only looks whether it is JSON, `Doc.value` reads it as a value.
On top of them stand decoders for the shapes a program asks for.  A record is lenient: it may be written as an
object, in any order and with unknown members, or as the list of its fields in order.  Its faults are reported in
text order; a member given twice is refused at its second name.

A text may nest containers 127 deep (`Room.forText`); a value that is already in memory has no such limit, and every
fault in it is a mismatch.
-/
import SolidityNav.Json.Document

namespace SolidityNav.Json

set_option autoImplicit false

/-! ## Nesting -/

/-- How many more containers may be opened; `none` is no limit. -/
abbrev Room := Option Nat

/-- The nesting a text is allowed. -/
def Room.forText : Room :=
  some 127

/-- The room left inside one more container. -/
def Room.enter : Room → Except Fault Room
  | none => .ok none
  | some 0 => .error .illFormed
  | some (left + 1) => .ok (some left)

/-! ## Whole documents -/

/-- Whether a container was closed, to a reader. -/
def closed : Option Break → Except Fault Unit
  | none => .ok ()
  | some place => .error place.read

/-- Whether a container was closed, to a skipper. -/
def skipClosed : Option Break → Except Fault Unit
  | none => .ok ()
  | some place => .error place.skip

mutual

/-- Goes over a document without reading it. -/
def Doc.skip : Doc → Except Fault Unit
  | .array items ending => do
      Doc.skipItems items
      skipClosed ending
  | .object members ending => do
      Doc.skipMembers members
      skipClosed ending
  | .broken place => .error place.skip
  | _ => .ok ()

def Doc.skipItems : List Doc → Except Fault Unit
  | [] => .ok ()
  | item :: rest => do
      Doc.skip item
      Doc.skipItems rest

def Doc.skipMembers : List (Except Fault String × Doc) → Except Fault Unit
  | [] => .ok ()
  | (_, value) :: rest => do
      Doc.skip value
      Doc.skipMembers rest

end

mutual

/-- Reads a document as a value. -/
def Doc.value (room : Room) : Doc → Except Fault Json
  | .null => .ok .null
  | .bool value => .ok (.bool value)
  | .number value => value.map .number
  | .string value => value.map .string
  | .array items ending => do
      let values ← Doc.values (← room.enter) items
      closed ending
      return .array values
  | .object members ending => do
      let fields ← Doc.fields (← room.enter) [] members
      closed ending
      return .object fields
  | .broken place => .error place.read

def Doc.values (room : Room) : List Doc → Except Fault (List Json)
  | [] => .ok []
  | item :: rest => do
      let value ← Doc.value room item
      return value :: (← Doc.values room rest)

/-- Reads members into a table: a repeated name keeps its place and takes the last value. -/
def Doc.fields (room : Room) (before : Table String Json) :
    List (Except Fault String × Doc) → Except Fault (Table String Json)
  | [] => .ok before
  | (key, value) :: rest => do
      let name ← key
      let value ← Doc.value room value
      Doc.fields room (Table.insert name value before) rest

end

/-! ## Decoders -/

/-- A way to read a document as an `α`. -/
abbrev Decoder (α : Type) := Room → Doc → Except Fault α

/-- The fault of a document that has another shape than the one asked for.  A scalar is read before it is
refused. -/
def Doc.mismatch : Doc → Fault
  | .broken place => place.read
  | .number (.error fault) | .string (.error fault) => fault
  | _ => .mismatched

namespace Decoder

variable {α : Type}

/-- Any value. -/
def json : Decoder Json :=
  Doc.value

def bool : Decoder Bool
  | _, .bool value => .ok value
  | _, doc => .error doc.mismatch

def string : Decoder String
  | _, .string value => value
  | _, doc => .error doc.mismatch

/-- An integer with `least ≤ n ≤ greatest`. -/
def integer (least greatest : Int) : Decoder Int
  | _, .number (.ok (.int value)) =>
      if least ≤ value ∧ value ≤ greatest then .ok value else .error .mismatched
  | _, doc => .error doc.mismatch

def int64 : Decoder Int64 := fun room doc =>
  (integer (-0x8000000000000000) 0x7FFFFFFFFFFFFFFF room doc).map Int64.ofInt

def uint32 : Decoder UInt32 := fun room doc =>
  (integer 0 0xFFFFFFFF room doc).map fun n => UInt32.ofNat n.toNat

/-- `null` for none. -/
def option (decoder : Decoder α) : Decoder (Option α)
  | _, .null => .ok none
  | room, doc => (decoder room doc).map some

/-- A list of items of one kind. -/
def list (decoder : Decoder α) : Decoder (List α)
  | room, .array items ending => do
      let room ← room.enter
      let values ← items.mapM (decoder room)
      closed ending
      return values
  | _, doc => .error doc.mismatch

/-- Reads members of one kind into a table. -/
def entries (decoder : Decoder α) (room : Room) (before : Table String α) :
    List (Key × Doc) → Except Fault (Table String α)
  | [] => .ok before
  | (key, doc) :: rest => do
      let name ← key
      let value ← decoder room doc
      entries decoder room (Table.insert name value before) rest

/-- An object whose members are all of one kind. -/
def table (decoder : Decoder α) : Decoder (Table String α)
  | room, .object members ending => do
      let values ← entries decoder (← room.enter) [] members
      closed ending
      return values
  | _, doc => .error doc.mismatch

end Decoder

/-! ## Records -/

/-- One field of a record that is being collected in a `σ`. -/
structure Slot (σ : Type) where
  name : String
  /-- Whether the field was given. -/
  filled : σ → Bool
  /-- Reads the field. -/
  fill : σ → Decoder σ
  /-- Whether the list form may stop before the field. -/
  defaulted : Bool

/-- The slot of a field of type `α`, with the way to look at it and the way to set it. -/
def Slot.of {σ α : Type} (name : String) (get : σ → Option α) (set : σ → α → σ) (decoder : Decoder α)
    (defaulted : Bool) : Slot σ where
  name := name
  filled draft := (get draft).isSome
  fill draft room doc := (decoder room doc).map (set draft)
  defaulted := defaulted

namespace Slot

variable {σ : Type}

/-- Collects the fields from the members of an object. -/
def fromMembers (slots : List (Slot σ)) (room : Room) (draft : σ) : List (Key × Doc) → Except Fault σ
  | [] => .ok draft
  | (key, doc) :: rest => do
      let name ← key
      match slots.find? (·.name == name) with
      | some slot =>
          if slot.filled draft then throw .mismatched
          fromMembers slots room (← slot.fill draft room doc) rest
      | none =>
          doc.skip
          fromMembers slots room draft rest

/-- Collects the fields from a list of them, in order. -/
def fromItems (room : Room) (ending : Option Break) : List (Slot σ) → σ → List Doc → Except Fault σ
  | [], draft, [] => do
      closed ending
      return draft
  | [], _, _ :: _ => .error .illFormed
  | slot :: slots, draft, [] => do
      closed ending
      if slot.defaulted then fromItems room ending slots draft [] else .error .mismatched
  | slot :: slots, draft, doc :: rest => do
      fromItems room ending slots (← slot.fill draft room doc) rest

end Slot

/-- Reads a record: collects its fields in a draft and completes the draft. -/
def Decoder.record {σ α : Type} (slots : List (Slot σ)) (empty : σ) (complete : σ → Option α) : Decoder α
  | room, doc => do
      let draft ←
        match doc with
        | .object members ending => do
            let draft ← Slot.fromMembers slots (← room.enter) empty members
            closed ending
            pure draft
        | .array items ending => do
            Slot.fromItems (← room.enter) ending slots empty items
        | _ => .error doc.mismatch
      match complete draft with
      | some value => .ok value
      | none => .error .mismatched

/-! ## Texts and values -/

/-- Reads a whole text. -/
def Decoder.fromText {α : Type} (decoder : Decoder α) (room : Room) (text : String) : Except Fault α := do
  let document := Document.ofText text
  let value ← decoder room document.root
  if document.trailing then throw .illFormed
  return value

/-- Reads a value in memory; whatever is wrong with it is a mismatch. -/
def Decoder.fromValue {α : Type} (decoder : Decoder α) (value : Json) : Except Fault α :=
  (decoder none (Doc.ofJson value)).mapError fun _ => .mismatched

/-- The value a text spells, with the nesting limit for texts. -/
def parse (text : String) : Except Fault Json :=
  Decoder.json.fromText Room.forText text

end SolidityNav.Json
