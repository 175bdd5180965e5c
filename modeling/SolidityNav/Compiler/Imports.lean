/-
# Compiler.Imports -- the text of imported files

A compiler asks for the files its source imports.  Imports may come from anywhere; `Disk.imports` takes them from a
disk, which is a value here: a tree of directories and files.  Resolving a path goes part by part as an operating
system does: every part but the last has to be a directory, and so has a path that ends in a slash.  Empty parts and
`.` stay where they are, and `..` goes up.  A path of more than `pathLimit` bytes is not looked up at all.
-/
import SolidityNav.Path
import SolidityNav.Table
import SolidityNav.Text.Quoted

namespace SolidityNav.Compiler

set_option autoImplicit false

/-- Where the text of an imported path comes from, or why there is none. -/
abbrev Imports := String → Except String String

/-- A directory tree. -/
inductive Disk where
  | file (bytes : ByteArray)
  | directory (entries : List (List UInt8 × Disk))

namespace Disk

/-- The longest path that can be looked up, in bytes. -/
def pathLimit : Nat := 4095

/-- The entries of a directory; a file has none. -/
def entries : Disk → Table (List UInt8) Disk
  | .directory entries => entries
  | .file _ => []

/-- The entry of a directory. -/
def entry? (name : List UInt8) (disk : Disk) : Option Disk :=
  Table.find? name disk.entries

/-- Follows the parts of a path; `above` are the directories on the way, innermost first. -/
def follow? (above : List Disk) (current : Disk) : List (List UInt8) → Option Disk
  | [] => some current
  | part :: rest =>
      match current with
      | .file _ => none
      | .directory _ =>
          if part = [] ∨ part = [Path.dot] then follow? above current rest
          else if part = [Path.dot, Path.dot] then
            match above with
            | [] => follow? [] current rest
            | parent :: higher => follow? higher parent rest
          else
            match current.entry? part with
            | some below => follow? (current :: above) below rest
            | none => none

/-- What an absolute path leads to. -/
def lookup? (disk : Disk) (path : Path) : Option Disk :=
  if path.isAbsolute then follow? [] disk (Text.split Path.slash path.bytes) else none

/-- Changes what stands at a place, given by the names that lead to it; missing directories are made. -/
def alter (change : Disk → Disk) : List (List UInt8) → Disk → Disk
  | [], disk => change disk
  | name :: rest, disk =>
      .directory
        (Table.update name (fun below => alter change rest (below.getD (.directory []))) disk.entries)

/-- The places the parts of a path lead to, one after the other; `above` are the names so far, innermost first. -/
def places (above : List (List UInt8)) : List (List UInt8) → List (List (List UInt8))
  | [] => []
  | part :: rest =>
      let reached :=
        if part = [] ∨ part = [Path.dot] then above
        else if part = [Path.dot, Path.dot] then above.tail
        else part :: above
      reached.reverse :: places reached rest

/-- The disk after writing a file, with the directories its path passes. -/
def write (path : Path) (bytes : ByteArray) (disk : Disk) : Disk :=
  let passed := places [] (Text.split Path.slash path.bytes)
  (passed.dropLast.foldl (fun disk place => alter (fun found => found) place disk) disk)
    |> alter (fun _ => .file bytes) (passed.getLast?.getD [])

/-- Imports from a disk: relative paths are taken from `base`, and from `workingDirectory` without one. -/
def imports (disk : Disk) (workingDirectory : Path) (base : Option Path) : Imports := fun path =>
  let path := Path.ofText path
  let full :=
    match base with
    | some base => if path.isAbsolute then path else base.join path
    | none => path
  let found :=
    if full.bytes.isEmpty || pathLimit < full.bytes.length then none
    else disk.lookup? (workingDirectory.join full)
  match found with
  | some (.file bytes) =>
      match String.fromUTF8? bytes with
      | some text => .ok text
      | none => .error "stream did not contain valid UTF-8"
  | _ => .error ("File " ++ Text.quoted full.text ++ " not found")

end Disk

end SolidityNav.Compiler
