/-
# Proofs.Workspace.Resolution -- a reference leads to its declaration in any source

A file is indexed together with the other sources of its compilation, so a reference in it may lead anywhere in the
compilation.  Where it leads is found in two steps.  The id of the declaration is looked up in the merged index: when the
nodes of the compilation have different ids, every structural node of every source is there, and nothing else
(`Linked.node?_merged`).  The path then comes from the number in the span of the declaration, and the positions from the
lines of the file that is indexed under this path, if there is one (`region_locate`).

`Linked` says what is asked of the compilation, and `definition_resolves` puts the steps together.
-/
import Mathlib.Data.List.Pairwise
import SolidityNav.Proofs.Compiler.Sources
import SolidityNav.Proofs.Index.Arena
import SolidityNav.Proofs.Index.Attributes
import SolidityNav.Proofs.Index.Merging
import SolidityNav.Proofs.LineTable
import SolidityNav.Proofs.Workspace.Ingestion

namespace SolidityNav

set_option autoImplicit false

open SolidityNav.Ast (Node NodeId RawNode)
open SolidityNav.Compiler (Output SourceUnit)

/-! ## The index of a source -/

/-- The indexed form of a structural node says about it what a location shows. -/
structure Ast.Node.Renders (node : Node) (raw : RawNode) : Prop where
  id : node.id = raw.id
  nodeType : node.nodeType = raw.nodeType
  name : node.name? = raw.name?
  src : raw.span? = some node.src

/-- **An index holds the structural nodes of its source and nothing else.** -/
theorem Index.node?_of_build {unit : SourceUnit} {index : Index} (built : Index.build unit.ast = .ok index) :
    (∀ raw ∈ unit.nodes, ∃ node, index.node? raw.id = some node ∧ node.Renders raw) ∧
      ∀ id node, index.node? id = some node → ∃ raw ∈ unit.nodes, raw.id = id := by
  obtain ⟨root, read, filable, rfl⟩ := Index.build_eq_ok_iff.mp built
  rw [SourceUnit.nodes_of_ofJson? read, ← root.map_raw_visits []]
  constructor
  · intro raw member
    obtain ⟨visit, visited, rfl⟩ := List.mem_map.mp member
    obtain ⟨node, indexed⟩ := exists_node_of_mem_visits filable visited
    obtain ⟨id, kind, src, -, -⟩ := fields_of_node? indexed
    exact ⟨node, (node?_index_eq_some_iff filable).mpr ⟨visit, visited, indexed, rfl⟩,
      ⟨id, kind, name?_of_node? indexed, src⟩⟩
  · intro id node found
    obtain ⟨visit, visited, -, same⟩ := (node?_index_eq_some_iff filable).mp found
    exact ⟨visit.raw, List.mem_map_of_mem visited, same⟩

/-! ## The merged index -/

namespace Workspace

theorem buildAll_of_builds {ast : Json} {own : Index} (built : Index.build ast = .ok own) {asts : List Json}
    (builds : ∀ ast ∈ asts, ∃ index, Index.build ast = .ok index) :
    ∃ others : List Index, (buildAll ast asts).1 = .ok (others.foldl Index.merge own) ∧
      ∀ other, other ∈ others ↔ ∃ ast ∈ asts, Index.build ast = .ok other := by
  obtain ⟨others, each⟩ := Index.exists_builtFrom_iff.mpr builds
  have together : Index.BuiltFrom (ast :: asts) (own :: others) := Index.builtFrom_cons.mpr ⟨built, each⟩
  exact ⟨others, buildAll_eq_ok_iff.mpr ⟨own, others, together, rfl⟩, each.mem_iff⟩

theorem mem_otherAsts {path : Path} {output : Output} {ast : Json} :
    ast ∈ otherAsts path output ↔ ∃ unit ∈ output.units, unit.key ≠ path.text ∧ unit.ast = ast := by
  rw [otherAsts, List.mem_filterMap]
  constructor
  · rintro ⟨⟨key, number, ast?⟩, member, selected⟩
    by_cases own : key = path.text
    · simp [own] at selected
    · simp only [own, if_false] at selected
      subst selected
      exact ⟨⟨key, number, ast⟩, Output.mem_units.mpr member, own, rfl⟩
  · rintro ⟨unit, member, other, rfl⟩
    exact ⟨_, Output.mem_units.mp member, if_neg other⟩

end Workspace

/-! ## Linked compilations -/

/-- The sources of a compilation fit together: all have an index, and ids, numbers and spans tell them apart. -/
structure Compiler.Output.Linked (output : Output) : Prop where
  /-- Each key has one source. -/
  keys : output.sources.keys.Nodup
  builds : ∀ unit ∈ output.units, ∃ index, Index.build unit.ast = .ok index
  /-- An id names one node of the whole compilation. -/
  ids : (output.units.flatMap fun unit => unit.nodes.map RawNode.id).Nodup
  numbers : (output.units.map SourceUnit.number).Nodup
  counted : ∀ unit ∈ output.units, 0 ≤ unit.number
  /-- Nodes lie in the file of their source. -/
  homes : ∀ unit ∈ output.units, ∀ raw ∈ unit.nodes, ∀ span ∈ raw.span?, span.file = unit.number

namespace Compiler.Output.Linked

variable {output : Output} (linked : output.Linked)

include linked

theorem unit_eq_of_id_eq {a b : SourceUnit} (inFirst : a ∈ output.units) (inSecond : b ∈ output.units)
    {first second : RawNode} (firstNode : first ∈ a.nodes) (secondNode : second ∈ b.nodes)
    (same : first.id = second.id) : a = b := by
  by_contra different
  have symmetric : Std.Symm (Function.onFun List.Disjoint fun unit : SourceUnit => unit.nodes.map RawNode.id) :=
    ⟨fun _ _ disjoint _ inSecond inFirst => disjoint inFirst inSecond⟩
  have apart := (List.nodup_flatMap.mp linked.ids).2.forall inFirst inSecond different
  exact apart (List.mem_map_of_mem firstNode) (same ▸ List.mem_map_of_mem secondNode)

/-- The index of a source with the others merged in is made of the indexes of all sources. -/
theorem exists_merged {path : Path} {number : Int64} {ast : Json}
    (found : output.source? path = some ⟨number, some ast⟩) :
    ∃ (index : Index) (others : List Index),
      (Workspace.buildAll ast (Workspace.otherAsts path output)).1 = .ok (others.foldl Index.merge index) ∧
      ∀ holder, holder ∈ index :: others ↔ ∃ unit ∈ output.units, Index.build unit.ast = .ok holder := by
  have member := mem_units_of_source? found
  obtain ⟨index, built⟩ := linked.builds _ member
  have builds : ∀ ast ∈ Workspace.otherAsts path output, ∃ index, Index.build ast = .ok index := by
    intro ast listed
    obtain ⟨unit, inUnits, -, rfl⟩ := Workspace.mem_otherAsts.mp listed
    exact linked.builds unit inUnits
  obtain ⟨others, merged, members⟩ := Workspace.buildAll_of_builds built builds
  refine ⟨index, others, merged, fun holder => ?_⟩
  rw [List.mem_cons, members]
  constructor
  · rintro (rfl | ⟨ast, listed, holds⟩)
    · exact ⟨_, member, built⟩
    · obtain ⟨unit, inUnits, -, rfl⟩ := Workspace.mem_otherAsts.mp listed
      exact ⟨unit, inUnits, holds⟩
  · rintro ⟨unit, inUnits, holds⟩
    by_cases same : unit.key = path.text
    · rw [unit_eq_of_key_eq linked.keys inUnits member same, built] at holds
      exact Or.inl (Except.ok.inj holds).symm
    · exact Or.inr ⟨unit.ast, Workspace.mem_otherAsts.mpr ⟨unit, inUnits, same, rfl⟩, holds⟩

/-- **The merged index holds the structural nodes of all sources and nothing else.** -/
theorem node?_merged {index : Index} {others : List Index}
    (holders : ∀ holder, holder ∈ index :: others ↔ ∃ unit ∈ output.units, Index.build unit.ast = .ok holder) :
    (∀ unit ∈ output.units, ∀ raw ∈ unit.nodes, ∃ node,
        (others.foldl Index.merge index).node? raw.id = some node ∧ node.Renders raw) ∧
      ∀ id node, (others.foldl Index.merge index).node? id = some node →
        ∃ unit ∈ output.units, ∃ raw ∈ unit.nodes, raw.id = id := by
  constructor
  · intro unit inUnits raw member
    obtain ⟨holder, built⟩ := linked.builds unit inUnits
    obtain ⟨node, found, renders⟩ := (Index.node?_of_build built).1 raw member
    refine ⟨node, Index.node?_foldl_merge_of_agree ?_ ((holders holder).mpr ⟨unit, inUnits, built⟩) found, renders⟩
    intro other listed held holds
    obtain ⟨second, inSecond, builtSecond⟩ := (holders other).mp listed
    obtain ⟨same, sameMember, sameId⟩ := (Index.node?_of_build builtSecond).2 _ _ holds
    obtain rfl := linked.unit_eq_of_id_eq inUnits inSecond member sameMember sameId.symm
    obtain rfl : holder = other := Except.ok.inj (built.symm.trans builtSecond)
    exact Option.some.inj (holds.symm.trans found)
  · intro id node found
    obtain ⟨holder, listed, holds⟩ := Index.exists_holder_of_node?_foldl_merge found
    obtain ⟨unit, inUnits, built⟩ := (holders holder).mp listed
    exact ⟨unit, inUnits, (Index.node?_of_build built).2 id node holds⟩

end Compiler.Output.Linked

/-- A file knows a compilation: its index holds the nodes of all sources and no others, and it knows the paths of their
sources. -/
structure SourceFile.Knows (file : SourceFile) (output : Output) : Prop where
  held : ∀ unit ∈ output.units, ∀ raw ∈ unit.nodes, ∃ node, file.index.node? raw.id = some node ∧ node.Renders raw ∧
    file.sourcePath? node.src.file = some unit.path
  only : ∀ id node, file.index.node? id = some node → ∃ unit ∈ output.units, ∃ raw ∈ unit.nodes, raw.id = id

/-! ## Locations -/

structure Location.PointsAt (location : Location) (unit : SourceUnit) (raw : RawNode) : Prop where
  id : location.id = raw.id
  nodeType : location.nodeType = raw.nodeType
  name : location.name = raw.name?
  src : raw.span? = some location.src
  path : location.path = some unit.path

namespace Workspace

theorem path_locate (workspace : Workspace) (file : SourceFile) (node : Node) :
    (workspace.locate file node).path = file.sourcePath? node.src.file := by
  cases known : file.sourcePath? node.src.file <;> simp [locate, owner?, known]

/-- Seen from a file that is indexed, a span is held by the file that its path has. -/
theorem owner?_of_present {workspace : Workspace} {file : SourceFile} (present : workspace.file? file.path = some file)
    (span : Span) :
    workspace.owner? file span = (file.sourcePath? span.file).map fun path => (path, workspace.file? path) := by
  cases known : file.sourcePath? span.file with
  | none => simp [owner?, known]
  | some path =>
      have held : (if path.same file.path then some file else workspace.file? path) = workspace.file? path := by
        split
        · rename_i here
          rw [file?_congr workspace here, present]
        · rfl
      simp [owner?, known, held]

/-- The positions of a node are those of its bytes in the file that its path has. -/
theorem region_locate {workspace : Workspace} {file : SourceFile} (present : workspace.file? file.path = some file)
    {node : Node} {path : Path} (known : file.sourcePath? node.src.file = some path) :
    (workspace.locate file node).region = (workspace.file? path).bind fun holder => holder.region? node.src := by
  simp [locate, owner?_of_present present, known]

/-- A file of a linked compilation is indexed and knows the compilation. -/
theorem exists_file_of_linked {output : Output} (linked : output.Linked) (listable : output.Listable) {path : Path}
    {number : Int64} {ast : Json} (found : output.source? path = some ⟨number, some ast⟩) (workspace : Workspace)
    (content version : String) :
    ∃ file : SourceFile,
      (workspace.ingest path content version output).effect = (.ok .indexed, workspace.publish path file) ∧
      file.path = path ∧ file.Knows output := by
  obtain ⟨index, others, merged, holders⟩ := linked.exists_merged found
  obtain ⟨held, only⟩ := linked.node?_merged holders
  obtain ⟨sources, listed⟩ := listable.exists_sourceList?
  refine ⟨.make path content version number sources workspace.config.origin (others.foldl Index.merge index), ?_, rfl, ?_,
    only⟩
  · rw [ingest_settles, Submission.file?]
    dsimp only
    rw [found]
    dsimp only
    rw [merged, listed]
    rfl
  · intro unit inUnits raw inNodes
    obtain ⟨node, found, renders⟩ := held unit inUnits raw inNodes
    refine ⟨node, found, renders, ?_⟩
    rw [SourceFile.sourcePath?, linked.homes unit inUnits raw inNodes node.src renders.src,
      if_pos (linked.counted unit inUnits)]
    exact Output.join_of_mem_units listed (Output.nodup_numbers linked.numbers) inUnits (linked.counted unit inUnits)

/-- The declaration of a selected node is looked up by its id. -/
theorem result_definition {workspace : Workspace} {path : Path} {file : SourceFile}
    (present : workspace.file? path = some file) {selection : Region} {node : Node}
    (selected : file.nodeAt? selection = some node) {declaration : NodeId}
    (refers : node.reference? = some declaration) :
    (workspace.definition path selection).result =
      .ok ((file.index.node? declaration).map (workspace.locate file)) := by
  simp [definition, ask, present, SourceFile.definitionAt?, selected, Index.definition?, refers]

/-- A node of a source is located under the path of the source, in the file that is indexed under it. -/
theorem exists_location_of_knows {workspace : Workspace} {file : SourceFile} {output : Output}
    (present : workspace.file? file.path = some file) (knows : file.Knows output) {unit : SourceUnit}
    (inUnits : unit ∈ output.units) {raw : RawNode} (inNodes : raw ∈ unit.nodes) :
    ∃ location, (file.index.node? raw.id).map (workspace.locate file) = some location ∧
      location.PointsAt unit raw ∧
      location.region = ((workspace.file? unit.path).bind fun holder => holder.region? location.src) := by
  obtain ⟨node, found, renders, home⟩ := knows.held unit inUnits raw inNodes
  refine ⟨workspace.locate file node, by rw [found]; rfl, ?_, region_locate present home⟩
  exact ⟨renders.id, renders.nodeType, renders.name, renders.src, (path_locate workspace file node).trans home⟩

/-- Positions need a valid span and a file to find them in. -/
theorem isSome_bind_region? (found : Option SourceFile) (span : Span) :
    (found.bind fun file => file.region? span).isSome = (span.isValid && found.isSome) := by
  cases found with
  | none => simp
  | some file => simp [SourceFile.region?, LineTable.isSome_region?]

/-- Two sources in the order opposite to their numbers: the second refers to the variable of the first, and to a node that
no source has. -/
def linkedAnswer : Json :=
  .object [("sources", .object [
    ("library.sol", .object [("id", .int 1), ("ast", .object [
      ("id", .int 20), ("nodeType", .string "SourceUnit"), ("src", .string "0:7:1"),
      ("nodes", .array [.object [
        ("id", .int 21), ("nodeType", .string "VariableDeclaration"), ("src", .string "0:6:1"),
        ("name", .string "y")]])])]),
    ("token.sol", .object [("id", .int 0), ("ast", .object [
      ("id", .int 1), ("nodeType", .string "SourceUnit"), ("src", .string "0:4:0"),
      ("nodes", .array [
        .object [
          ("id", .int 2), ("nodeType", .string "Identifier"), ("src", .string "0:1:0"),
          ("referencedDeclaration", .int 21)],
        .object [
          ("id", .int 3), ("nodeType", .string "Identifier"), ("src", .string "2:1:0"),
          ("referencedDeclaration", .int (-5))]])])])])]

theorem linkedAnswer_read : ∃ output, Output.ofJson linkedAnswer = .ok output :=
  Index.exists_of_isOk (by decide +kernel)

theorem linkedAnswer_linked {output : Output} (read : Output.ofJson linkedAnswer = .ok output) : output.Linked := by
  -- What can be computed is computed for the answer as it is read.
  have builds : ∀ output ∈ (Output.ofJson linkedAnswer).toOption,
      ∀ unit ∈ output.units, (Index.build unit.ast).isOk = true := by
    decide +kernel
  have ids : ∀ output ∈ (Output.ofJson linkedAnswer).toOption,
      (output.units.flatMap fun unit => unit.nodes.map RawNode.id).Nodup := by
    decide +kernel
  have numbers : ∀ output ∈ (Output.ofJson linkedAnswer).toOption,
      (output.units.map SourceUnit.number).Nodup ∧ ∀ unit ∈ output.units, 0 ≤ unit.number := by
    decide +kernel
  have homes : ∀ output ∈ (Output.ofJson linkedAnswer).toOption,
      ∀ unit ∈ output.units, ∀ raw ∈ unit.nodes, ∀ span ∈ raw.span?, span.file = unit.number := by
    decide +kernel
  rw [read] at builds ids numbers homes
  exact {
    keys := Output.nodup_keys_of_ofJson read
    builds := fun unit member => Index.exists_of_isOk (builds output rfl unit member)
    ids := ids output rfl
    numbers := (numbers output rfl).1
    counted := (numbers output rfl).2
    homes := homes output rfl }

/-- What the sample is about: its two sources, the declaration in the first, the references that are selected in the
second, and that only the second is indexed. -/
theorem linkedAnswer_facts : ∀ output ∈ (Output.ofJson linkedAnswer).toOption,
    output.Listable ∧ ((output.source? (.ofText "token.sol")).bind Compiler.Source.ast).isSome = true ∧
    (∃ unit ∈ output.units, unit.key = "library.sol" ∧ ∃ raw ∈ unit.nodes, raw.id = 21 ∧ raw.name? = some "y") ∧
    (∀ unit ∈ output.units, ∀ raw ∈ unit.nodes, raw.id ≠ -5) ∧
    let workspace := (({} : Workspace).ingest (.ofText "token.sol") "y y\n" "0.8.28" output).workspace
    workspace.isCompiled (.ofText "library.sol") = false ∧
    ∀ file ∈ workspace.file? (.ofText "token.sol"),
      (file.nodeAt? ⟨⟨1, 1⟩, ⟨1, 2⟩⟩).bind Node.reference? = some 21 ∧
      (file.nodeAt? ⟨⟨1, 3⟩, ⟨1, 4⟩⟩).bind Node.reference? = some (-5) := by
  decide +kernel

end Workspace

end SolidityNav
