/-
# Proofs.Workspace.Numbering -- the paths behind the numbers of a compilation

A span names its file by a number, so whoever follows a span into another file goes through the list of paths of the
compilation.  The list is filled source by source, in whatever order the compiler names them, and it may have gaps.  What
it holds in the end does not depend on how it was filled: at each place the last unit with this number, up to the greatest
number.

With each number once the list is the inverse of the numbering (`getElem?_eq_some_iff_of_sourceList?`).  A file that was
indexed finds under its own number the path that its own is shown as (`sourcePath?_number_of_indexed`).  That is its own path
if any text spells it; the compiler names sources by texts, so no other path can stand in the list.
-/
import SolidityNav.Proofs.Compiler.Sources
import SolidityNav.Proofs.Workspace.History

namespace SolidityNav

set_option autoImplicit false

open SolidityNav.Compiler (Output Source SourceUnit)

/-! ## Paths by number -/

namespace Compiler.Output

section SourceList

variable {output : Output} {list : List (Option Path)} (listed : output.sourceList? = some list)
include listed

/-- Only the paths of units with a number stand in the list. -/
theorem not_mem_of_sourceList? (distinct : output.sources.keys.Nodup) {key : String} {source : Source}
    (member : (key, source) ∈ output.sources) (omitted : source.ast = none ∨ source.id < 0) :
    some (.ofText key) ∉ list := by
  intro present
  obtain ⟨i, held⟩ := List.mem_iff_getElem?.mp present
  have joined : list[i]?.join = some (.ofText key) := by rw [held]; rfl
  obtain ⟨unit, inCounted, path, -⟩ := exists_counted_of_join listed joined
  obtain ⟨inUnits, counted⟩ := mem_counted.mp inCounted
  have found := find?_of_mem_units distinct inUnits
  rw [Path.ofText_injective path, (Table.find?_eq_some_iff distinct).mpr member] at found
  cases found
  rcases omitted with unread | negative
  · cases unread
  · exact Int64.not_lt.mpr counted negative

/-- **With each key and each number once, the list of paths inverts the numbering of the units.** -/
theorem getElem?_eq_some_iff_of_sourceList? (keys : output.sources.keys.Nodup) (distinct : output.numbers.Nodup) {i : Nat}
    {path : Path} :
    list[i]? = some (some path) ↔
      (∃ text, Path.ofText text = path) ∧
        ∃ number ast, output.source? path = some ⟨number, some ast⟩ ∧ number.toInt = i := by
  have joined : list[i]? = some (some path) ↔ list[i]?.join = some path := by
    cases list[i]? <;> simp
  rw [joined, join_eq_some_iff_of_sourceList? listed distinct]
  constructor
  · rintro ⟨unit, inCounted, rfl, here⟩
    obtain ⟨inUnits, counted⟩ := mem_counted.mp inCounted
    rw [Int64.le_iff_toInt_le, Int64.toInt_zero] at counted
    refine ⟨⟨unit.key, rfl⟩, unit.number, unit.ast, ?_, by omega⟩
    exact (output.source?_ofText unit.key).trans (find?_of_mem_units keys inUnits)
  · rintro ⟨spelled, number, ast, found, here⟩
    have counted : 0 ≤ number := by
      rw [Int64.le_iff_toInt_le, Int64.toInt_zero]
      omega
    refine ⟨⟨path.text, number, ast⟩, mem_counted.mpr ⟨mem_units_of_source? found, counted⟩, ?_, by simp [here]⟩
    exact Path.ofText_text_eq_iff.mpr spelled

end SourceList

end Compiler.Output

/-- A number that is no place of the list has no path. -/
theorem SourceFile.sourcePath?_of_outside (file : SourceFile) {number : Int64}
    (outside : number < 0 ∨ file.sources.length ≤ number.toInt) : file.sourcePath? number = none := by
  rw [sourcePath?]
  split
  · rename_i counted
    rcases outside with negative | behind
    · exact absurd negative (Int64.not_lt.mpr counted)
    · rw [List.getElem?_eq_none (by omega)]
      rfl
  · rfl

/-! ## Indexed files -/

namespace Workspace

section Indexed

variable {workspace : Workspace} {path : Path} {content version : String} {output : Output}
  (indexed : (workspace.ingest path content version output).status = .ok .indexed)
include indexed

/-- An indexed file has the number that its path has in the compilation, and the paths behind all the numbers. -/
theorem exists_file_of_indexed :
    ∃ file ast, (workspace.ingest path content version output).workspace.file? path = some file ∧ file.path = path ∧
      output.sourceList? = some file.sources ∧ output.source? path = some ⟨file.number, some ast⟩ := by
  have settled := ingest_settles workspace path content version output
  rcases settle_cases workspace path
    ((⟨path, content, version, output⟩ : Submission).file? workspace.config.origin) with ⟨file, given, done⟩ | ⟨other, -⟩
  · rw [done] at settled
    obtain ⟨ast, found, listed, -⟩ := Submission.source_of_file? given
    have published : (workspace.ingest path content version output).workspace = workspace.publish path file :=
      (Prod.mk.inj settled).2
    refine ⟨file, ast, ?_, (Submission.fields_of_file? given).1, listed, found⟩
    rw [published, file?_publish, if_pos (Path.same_self path)]
  · have status : (workspace.ingest path content version output).status = _ := (Prod.mk.inj settled).1
    exact absurd (status.symm.trans indexed) other

/-- **An indexed file finds the path that its own is shown as under its own number.** -/
theorem sourcePath?_number_of_indexed (distinct : output.numbers.Nodup) :
    ∃ file, (workspace.ingest path content version output).workspace.file? path = some file ∧ file.path = path ∧
      (0 ≤ file.number → file.sourcePath? file.number = some (.ofText path.text)) := by
  obtain ⟨file, ast, stored, own, listed, found⟩ := exists_file_of_indexed indexed
  refine ⟨file, stored, own, fun counted => ?_⟩
  rw [SourceFile.sourcePath?, if_pos counted]
  exact Output.join_of_mem_units listed distinct (Output.mem_units_of_source? found) counted

end Indexed

def bareUnit : Json :=
  .object [("id", .int 3), ("nodeType", .string "SourceUnit"), ("src", .string "0:4:0")]

/-- An answer whose sources stand in another order than their numbers, with a gap where the source has no AST.  Two sources
share a number that is no place. -/
def gapped : Output where
  sources := [
    ("/w/B.sol", ⟨2, some bareUnit⟩), ("/w/A.sol", ⟨0, some bareUnit⟩), ("/w/C.sol", ⟨1, none⟩),
    ("/w/D.sol", ⟨-1, some bareUnit⟩), ("/w/E.sol", ⟨-1, some bareUnit⟩)]
  diagnostics := []

/-- A path with a byte in it that begins no character. -/
def unspelled : Path :=
  ⟨[0x61, 0xFF, 0x2E, 0x73, 0x6F, 0x6C]⟩

def unspelledOutput : Output where
  sources := [(unspelled.text, ⟨0, some bareUnit⟩)]
  diagnostics := []

-- The source of this path goes by the text that is shown for it, so it is the path of that text which is listed.
example : ∀ file ∈ (({} : Workspace).ingest unspelled "" "0.8.28" unspelledOutput).workspace.file? unspelled,
    file.path = unspelled ∧ file.sourcePath? 0 = some (.ofText "a\uFFFD.sol") ∧ file.sourcePath? 0 ≠ some unspelled := by
  decide +kernel

end Workspace

end SolidityNav
