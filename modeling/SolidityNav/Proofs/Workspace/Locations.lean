/-
# Proofs.Workspace.Locations -- locations that are given out survive being written

The kind of a node can also be made up: an unknown kind with the tag of a known one is written as that tag, and read back as
the known kind.  A workspace gives out no such kinds.  Its locations are those of nodes of its indexes, the nodes of an
index come from the objects of ASTs, and the kind of an object is read from its tag (`exists_tag_of_givesOut`).

A path that no text spells cannot be written, but a workspace gives out none.  The paths of its locations come from the
compiler, which names its sources by texts (`isSome_toJson?_of_givesOut`).
-/
import SolidityNav.Proofs.Location
import SolidityNav.Proofs.Workspace.Excerpts
import SolidityNav.Proofs.Workspace.Ingestion

namespace SolidityNav

set_option autoImplicit false

open SolidityNav.Ast (Node NodeType)
open SolidityNav.Compiler (Output)

/-! ## Kinds of nodes -/

namespace Index

theorem exists_tag_of_build {ast : Json} {index : Index} (built : build ast = .ok index) {node : Node}
    (held : index.HasNode node) : ∃ tag, node.nodeType = .ofTag tag := by
  obtain ⟨root, -, filable, rfl⟩ := build_eq_ok_iff.mp built
  obtain ⟨id, stored⟩ := held
  obtain ⟨visit, -, indexed, -⟩ := (node?_index_eq_some_iff filable).mp stored
  exact ⟨visit.raw.tag, (fields_of_node? indexed).2.1⟩

end Index

namespace Workspace

theorem exists_tag_of_buildAll {ast : Json} {others : List Json} {index : Index}
    (built : (buildAll ast others).1 = .ok index) {node : Node} (held : index.HasNode node) :
    ∃ tag, node.nodeType = .ofTag tag := by
  obtain ⟨own, foreign, each, rfl⟩ := buildAll_eq_ok_iff.mp built
  obtain ⟨id, stored⟩ := held
  obtain ⟨holder, member, stored⟩ := Index.exists_holder_of_node?_foldl_merge stored
  obtain ⟨ast, -, built⟩ := (each.mem_iff holder).mp member
  exact Index.exists_tag_of_build built ⟨id, stored⟩

section GivesOut

variable {config : Config} {calls : List Call} {path : Path} {location : Location}
  (given : (({ config := config } : Workspace).after calls).GivesOut path location)
include given

/-- **A location that is given out has a kind that was read from a tag.** -/
theorem exists_tag_of_givesOut : ∃ tag, location.nodeType = .ofTag tag := by
  obtain ⟨file, node, present, held, rfl⟩ := given.exists_hasNode
  obtain ⟨submission, -, indexed⟩ := exists_submission_of_after present
  obtain ⟨ast, -, -, built, -⟩ := Submission.source_of_file? indexed
  exact exists_tag_of_buildAll built held

/-- **A location that is given out can be written.** -/
theorem isSome_toJson?_of_givesOut : location.toJson?.isSome = true := by
  obtain ⟨file, node, present, rfl⟩ := given.exists_node
  obtain ⟨submission, -, indexed⟩ := exists_submission_of_after present
  obtain ⟨-, -, listed, -⟩ := Submission.source_of_file? indexed
  rw [Location.isSome_toJson?]
  intro named located
  rw [path_locate, SourceFile.sourcePath?] at located
  split at located
  · obtain ⟨unit, -, spelled, -⟩ := Output.exists_counted_of_join listed located
    exact ⟨unit.key, spelled⟩
  · cases located

end GivesOut

/-! ## Locations -/

/-- **A location survives being written and read**, also after fields were moved and unknown fields added anywhere in what
was written, if its kind was read from a tag.  It can be written unless no text spells its path.  Reading a kind from a tag
keeps the tag and keeps different tags apart, and every location that a workspace gives out after any calls has a kind that
was read from a tag and can be written. -/
theorem location_survives :
    (∀ (location : Location) (tag : String), location.nodeType = .ofTag tag →
      ∀ written, location.toJson? = some written →
      ∀ value, Json.Varied written value → Location.ofJson value = .ok location) ∧
    (∀ location : Location, location.toJson?.isSome = true ↔
      ∀ path, location.path = some path → ∃ text, Path.ofText text = path) ∧
    (∀ tag, (NodeType.ofTag tag).tag = tag) ∧ Function.Injective NodeType.ofTag ∧
    ∀ (config : Config) (calls : List Call) (path : Path) (location : Location),
      (({ config := config } : Workspace).after calls).GivesOut path location →
        (∃ tag, location.nodeType = .ofTag tag) ∧ location.toJson?.isSome = true := by
  refine ⟨?_, fun _ => Location.isSome_toJson?, NodeType.tag_ofTag, NodeType.ofTag_injective, ?_⟩
  · intro location tag kind written given value varied
    exact Location.ofJson_of_varied kind given varied
  · intro config calls path location given
    exact ⟨exists_tag_of_givesOut given, isSome_toJson?_of_givesOut given⟩

def nameless : Location where
  id := 2
  nodeType := .ofTag "Identifier"
  name := none
  src := ⟨0, 6, 1⟩
  path := some (.ofText "library.sol")
  region := some ⟨⟨1, 1⟩, ⟨1, 6⟩⟩

/-- What is written for it, with its fields and those of its span turned around, a field added to it, and one to its first
position. -/
def shuffled : Json :=
  .object [
    ("range", .object [
      ("start", .object [("line", .nat 1), ("byte", .nat 0), ("character", .nat 1)]),
      ("end", .object [("line", .nat 1), ("character", .nat 6)])]),
    ("path", .string "library.sol"),
    ("src", .object [("fileIndex", .int 1), ("length", .int 6), ("start", .int 0)]),
    ("name", .null),
    ("node_type", .string "Identifier"),
    ("id", .int 2),
    ("comment", .array [.null])]

theorem varied_shuffled : ∃ written, nameless.toJson? = some written ∧ Json.Varied written shuffled := by
  refine ⟨.object [
    ("id", .int 2), ("node_type", .string "Identifier"), ("name", .null), ("src", Span.toJson ⟨0, 6, 1⟩),
    ("path", .string "library.sol"), ("range", Region.toJson ⟨⟨1, 1⟩, ⟨1, 6⟩⟩)], ?_, ?_⟩
  · simp only [Location.toJson?, nameless, Option.mapM_some, Path.text?_ofText]
    rfl
  refine .head (.field [_, _, _, _, _] "range" [] (.field [] "start" [_] (.added [_] "byte" (.nat 0) [_] (by decide)))) ?_
  refine .head (.field [_, _, _] "src" [_, _] (.moved (List.reverse_perm _).symm)) ?_
  refine .head (.moved (List.reverse_perm _).symm) ?_
  exact .single (.added [_, _, _, _, _, _] "comment" (.array [.null]) [] (by decide))

/-- The declaration of the sample is given out and survives, and the location without a name is read from the shuffled
value. -/
theorem location_survives_shuffled :
    (∃ output location written, Output.ofJson linkedAnswer = .ok output ∧
      (({} : Workspace).after (linkedCalls output)).GivesOut (.ofText "token.sol") location ∧
      location.toJson? = some written ∧ Location.ofJson written = .ok location) ∧
    Location.ofJson shuffled = .ok nameless := by
  obtain ⟨survives, -, -, -, givenOut⟩ := location_survives
  obtain ⟨written, given, varied⟩ := varied_shuffled
  refine ⟨?_, survives nameless "Identifier" rfl written given shuffled varied⟩
  obtain ⟨output, read⟩ := linkedAnswer_read
  obtain ⟨⟨file, present, node, found, -⟩, -⟩ := linkedCalls_facts output (by rw [read]; rfl)
  let reached := ({} : Workspace).after (linkedCalls output)
  have answered : (reached.definition (.ofText "token.sol") ⟨⟨1, 1⟩, ⟨1, 2⟩⟩).result =
      .ok (some (reached.locate file node)) := by
    simp [definition, ask, Option.mem_def.mp present, Option.mem_def.mp found, reached]
  have shown : reached.GivesOut (.ofText "token.sol") (reached.locate file node) := .definition answered
  obtain ⟨⟨tag, kind⟩, writable⟩ := givenOut {} (linkedCalls output) (.ofText "token.sol") _ shown
  obtain ⟨written, given⟩ := Option.isSome_iff_exists.mp writable
  exact ⟨output, _, written, read, shown, given, survives _ tag kind written given _ .refl⟩

end Workspace

end SolidityNav
