/-
# FileUri -- the URI of a file

The URI of an absolute path is `file://` and a slash before each component.  Bytes that would end a path segment or
are not visible ASCII are percent-encoded.  Four visible characters are neither encoded nor allowed in a URI; a
path with one of them has none.
-/
import SolidityNav.Path

namespace SolidityNav.FileUri

set_option autoImplicit false

/-- The ASCII characters that are encoded although they are visible. -/
def reserved : List Char :=
  [' ', '"', '#', '%', '/', '<', '>', '?', '`', '\\', '\x7b', '\x7d']

/-- The characters that stay as they are and make a URI invalid. -/
def forbidden : List Char :=
  ['[', ']', '^', '|']

def hexDigit (n : Nat) : Char :=
  (Nat.digitChar n).toUpper

/-- A byte as a percent sign and two hexadecimal digits. -/
def percent (byte : UInt8) : List Char :=
  ['%', hexDigit (byte.toNat / 16), hexDigit (byte.toNat % 16)]

/-- A byte in a path segment. -/
def encodeByte (byte : UInt8) : List Char :=
  if byte < 0x20 || 0x7F ≤ byte || Char.ofUInt8 byte ∈ reserved then percent byte else [Char.ofUInt8 byte]

/-- The bytes of a component below the root. -/
def segment : Path.Component → List UInt8
  | .root => []
  | .here => [Path.dot]
  | .up => [Path.dot, Path.dot]
  | .name bytes => bytes

/-- The URI of an absolute path. -/
def ofPath? (path : Path) : Option String :=
  match path.components with
  | .root :: rest =>
      let segments := rest.map segment
      if segments.any fun bytes => bytes.any fun byte => Char.ofUInt8 byte ∈ forbidden then none
      else
        let tail := if segments.isEmpty then ['/'] else segments.flatMap fun bytes => '/' :: bytes.flatMap encodeByte
        some ("file://" ++ String.ofList tail)
  | _ => none

end SolidityNav.FileUri
