/-
# Json.Document -- a JSON text as far as it can be read

Tokens are assembled into a document that keeps everything in text order: fields that repeat, scalars a reader
refuses, and the place where the text stops being JSON.  Whoever reads the document then meets its faults in
text order and stops at the first that concerns them, so which of two faults is reported depends on what is read
and not on how the text was assembled.
-/
import SolidityNav.Json.Token

namespace SolidityNav.Json

set_option autoImplicit false

/-- A value of a text.  A container that is not closed properly has a `Break` at its end; one that ends inside an
item has none, as that item is broken. -/
inductive Doc where
  | null
  | bool (value : Bool)
  | number (value : Except Fault Number)
  | string (value : Except Fault String)
  | array (items : List Doc) (ending : Option Break)
  | object (members : List (Except Fault String × Doc)) (ending : Option Break)
  | broken (place : Break)

/-- The name of a member, as a reader sees it. -/
abbrev Key := Except Fault String

/-- A whole text: its value, and whether anything follows it. -/
structure Document where
  root : Doc
  trailing : Bool

/-- A container that is still open, what it holds in reverse. -/
inductive Frame where
  | array (items : List Doc)
  | object (members : List (Key × Doc)) (key : Key)

/-- What the next token has to be. -/
inductive Due where
  | value
  | valueOrClose
  | commaOrClose
  | keyOrClose (members : List (Key × Doc))
  | key (members : List (Key × Doc))
  | colon (members : List (Key × Doc)) (key : Key)

/-- The document when the text breaks inside the innermost container, whose value is `inner`. -/
def Doc.cutOff (inner : Doc) : List Frame → Document
  | [] => ⟨inner, false⟩
  | .array items :: frames => Doc.cutOff (.array (inner :: items).reverse none) frames
  | .object members key :: frames => Doc.cutOff (.object ((key, inner) :: members).reverse none) frames

/-- The innermost container, closed or broken off before its next item. -/
def Frame.close (ending : Option Break) : Frame → Doc
  | .array items => .array items.reverse ending
  | .object members _ => .object members.reverse ending

/-- Puts a finished value into the innermost container. -/
def Frame.add (value : Doc) : Frame → Frame
  | .array items => .array (value :: items)
  | .object members key => .object ((key, value) :: members) key

/-- Assembles tokens into a document. -/
def assemble (frames : List Frame) (due : Due) : List Token → Document
  | [] =>
      let place := Break.both .truncated
      match due, frames with
      | .keyOrClose members, _ | .key members, _ => Doc.cutOff (.object members.reverse (some place)) frames
      | .colon members key, _ => Doc.cutOff (.object ((key, .broken place) :: members).reverse none) frames
      | .commaOrClose, frame :: outer | .valueOrClose, frame :: outer =>
          Doc.cutOff (frame.close (some place)) outer
      | _, _ => Doc.cutOff (.broken place) frames
  | token :: rest =>
      let illFormed := Break.both .illFormed
      /- A value is complete: go on in the container around it. -/
      let finish (value : Doc) (frames : List Frame) : Document :=
        match frames with
        | [] => ⟨value, !rest.isEmpty⟩
        | frame :: outer => assemble (frame.add value :: outer) .commaOrClose rest
      match due, token, frames with
      | .valueOrClose, .closeArray, .array items :: outer => finish (.array items.reverse none) outer
      | .value, token, _ | .valueOrClose, token, _ =>
          match token with
          | .null => finish .null frames
          | .bool value => finish (.bool value) frames
          | .number value => finish (.number value) frames
          | .string value => finish (.string value) frames
          | .openArray => assemble (.array [] :: frames) .valueOrClose rest
          | .openObject => assemble frames (.keyOrClose []) rest
          | .broken place | .unclosed place => Doc.cutOff (.broken place) frames
          | _ => Doc.cutOff (.broken illFormed) frames
      | .commaOrClose, .comma, .array items :: outer => assemble (.array items :: outer) .value rest
      | .commaOrClose, .comma, .object members _ :: outer => assemble outer (.key members) rest
      | .commaOrClose, .closeArray, .array items :: outer => finish (.array items.reverse none) outer
      | .commaOrClose, .closeObject, .object members _ :: outer => finish (.object members.reverse none) outer
      | .commaOrClose, _, frame :: outer => Doc.cutOff (frame.close (some illFormed)) outer
      | .commaOrClose, _, [] => Doc.cutOff (.broken illFormed) frames
      | .keyOrClose members, .closeObject, _ => finish (.object members.reverse none) frames
      | .keyOrClose members, .string key, _ | .key members, .string key, _ =>
          assemble frames (.colon members key) rest
      | .colon members key, .colon, _ => assemble (.object members key :: frames) .value rest
      | .colon members key, _, _ => Doc.cutOff (.object ((key, .broken illFormed) :: members).reverse none) frames
      | .keyOrClose members, .unclosed place, _ | .key members, .unclosed place, _ =>
          Doc.cutOff (.object members.reverse (some place)) frames
      | .keyOrClose members, _, _ | .key members, _, _ =>
          Doc.cutOff (.object members.reverse (some illFormed)) frames

/-- The document a text spells. -/
def Document.ofText (text : String) : Document :=
  assemble [] .value (tokens text.toList)

mutual

/-- A value as a document without faults. -/
def Doc.ofJson : Json → Doc
  | .null => .null
  | .bool value => .bool value
  | .number value => .number (.ok value)
  | .string value => .string (.ok value)
  | .array items => .array (Doc.ofItems items) none
  | .object fields => .object (Doc.ofFields fields) none

def Doc.ofItems : List Json → List Doc
  | [] => []
  | item :: rest => Doc.ofJson item :: Doc.ofItems rest

def Doc.ofFields : List (String × Json) → List (Key × Doc)
  | [] => []
  | (name, value) :: rest => (.ok name, Doc.ofJson value) :: Doc.ofFields rest

end

end SolidityNav.Json
