/-
# Proofs.Workspace.Excerpts -- the text of a location is the text at its positions

A location gives its place twice: as a span of bytes, which has a text, and as a path with positions, which can be selected
in the file that the path denotes.  The two go through different code.  The text is cut out of the bytes of a file, the
positions are rendered from its lines, and each looks up the file on its own.

In a workspace that calls have left, every file is stored under its own path and counts from the origin of the workspace
(`fields_of_after`), so both find the same file.  `text_agrees` says that they show the same text there.
-/
import SolidityNav.Proofs.Selection
import SolidityNav.Proofs.Text
import SolidityNav.Proofs.Workspace.History
import SolidityNav.Proofs.Workspace.Resolution

namespace SolidityNav

set_option autoImplicit false

open SolidityNav.Ast (Node)
open SolidityNav.Compiler (Output)

/-! ## Texts and positions of one file -/

namespace SourceFile

theorem isValid_of_text? {file : SourceFile} {span : Span} {text : String} (excerpt : file.text? span = some text) :
    span.isValid = true := by
  rw [text?] at excerpt
  split at excerpt
  · assumption
  · cases excerpt

theorem exists_text? {file : SourceFile} {span : Span} (valid : span.isValid = true)
    (start : Text.Boundary file.content.toList span.start.toInt.toNat)
    (stop : Text.Boundary file.content.toList (span.start.toInt + span.length.toInt).toNat) :
    ∃ text, file.text? span = some text := by
  obtain ⟨first, length, -⟩ := Span.isValid_iff.mp valid
  rw [Int.toNat_add first length] at stop
  obtain ⟨middle, sliced⟩ := Text.exists_byteSlice? start stop
  exact ⟨String.ofList middle, by rw [text?, if_pos valid, sliced]; rfl⟩

/-- Selecting the positions of a span gives its bytes, with the same text. -/
theorem exists_span_of_region? {file : SourceFile} {span : Span} (shown : file.lines.Shows file.origin span)
    {region : Region} (rendered : file.region? span = some region) :
    ∃ selected, file.span? (Region.ofLsp file.origin (region.toLsp file.origin)) = some selected ∧
      selected.start = span.start ∧ selected.length = span.length ∧ file.text? selected = file.text? span := by
  obtain ⟨selection, token, bytes⟩ := exists_wholeToken shown
  rw [wholeToken?, rendered, Option.map_some, Option.some.injEq] at token
  subst token
  exact ⟨_, bytes, rfl, rfl, rfl⟩

end SourceFile

/-! ## Nodes that are found -/

namespace Index

def HasNode (index : Index) (node : Node) : Prop :=
  ∃ id, index.node? id = some node

variable {index : Index} {node : Node}

theorem hasNode_of_definition? {declaration : Node} (found : index.definition? node = some declaration) :
    index.HasNode declaration := by
  obtain ⟨id, -, stored⟩ := Option.bind_eq_some_iff.mp found
  exact ⟨id, stored⟩

theorem hasNode_of_typeDefinition? {type : Node} (found : index.typeDefinition? node = some type) :
    index.HasNode type := by
  obtain ⟨declaration, declared, leads⟩ := Option.bind_eq_some_iff.mp found
  have direct := hasNode_of_definition? declared
  split at leads
  · rename_i typeName named
    cases stored : index.node? typeName with
    | none =>
        rw [stored] at leads
        cases leads
        exact direct
    | some held =>
        rw [stored] at leads
        cases leads
        exact ⟨typeName, stored⟩
  · cases leads
    exact direct

theorem hasNode_of_references? {uses : List Node} (found : index.references? node = some uses) {user : Node}
    (member : user ∈ uses) : index.HasNode user := by
  obtain ⟨target, -, rfl⟩ := Option.map_eq_some_iff.mp found
  obtain ⟨id, -, stored⟩ := List.mem_filterMap.mp member
  exact ⟨id, stored⟩

end Index

namespace Workspace

/-! ## Locations that are given out -/

inductive GivesOut (workspace : Workspace) (path : Path) : Location → Prop where
  | definition {selection : Region} {location : Location}
      (result : (workspace.definition path selection).result = .ok (some location)) : GivesOut workspace path location
  | typeDefinition {selection : Region} {location : Location}
      (result : (workspace.typeDefinition path selection).result = .ok (some location)) :
      GivesOut workspace path location
  | references {selection : Region} {locations : List Location} {location : Location}
      (result : (workspace.references path selection).result = .ok locations) (member : location ∈ locations) :
      GivesOut workspace path location

theorem exists_of_result_ask {α : Type} {workspace : Workspace} {path : Path} {query : SourceFile → α} {found : α}
    (result : (workspace.ask path query).result = .ok found) :
    ∃ file, workspace.file? path = some file ∧ query file = found := by
  rw [ask] at result
  split at result
  · rename_i file present
    exact ⟨file, present, Except.ok.inj result⟩
  · cases result

/-- Every location that is given out is that of a node of the file of the path, seen from there. -/
theorem GivesOut.exists_hasNode {workspace : Workspace} {path : Path} {location : Location}
    (given : workspace.GivesOut path location) :
    ∃ file node, workspace.file? path = some file ∧ file.index.HasNode node ∧
      workspace.locate file node = location := by
  cases given with
  | definition result =>
      obtain ⟨file, present, found⟩ := exists_of_result_ask result
      obtain ⟨node, declared, located⟩ := Option.map_eq_some_iff.mp found
      obtain ⟨selected, -, declared⟩ := Option.bind_eq_some_iff.mp declared
      exact ⟨file, node, present, Index.hasNode_of_definition? declared, located⟩
  | typeDefinition result =>
      obtain ⟨file, present, found⟩ := exists_of_result_ask result
      obtain ⟨node, typed, located⟩ := Option.map_eq_some_iff.mp found
      obtain ⟨selected, -, typed⟩ := Option.bind_eq_some_iff.mp typed
      exact ⟨file, node, present, Index.hasNode_of_typeDefinition? typed, located⟩
  | @references selection _ _ result member =>
      obtain ⟨file, present, rfl⟩ := exists_of_result_ask result
      obtain ⟨node, listed, located⟩ := List.mem_map.mp member
      refine ⟨file, node, present, ?_, located⟩
      cases used : file.referencesAt? selection with
      | none => simp [used] at listed
      | some uses =>
          rw [used, Option.getD_some] at listed
          obtain ⟨selected, -, used⟩ := Option.bind_eq_some_iff.mp used
          exact Index.hasNode_of_references? used listed

theorem GivesOut.exists_node {workspace : Workspace} {path : Path} {location : Location}
    (given : workspace.GivesOut path location) :
    ∃ file node, workspace.file? path = some file ∧ workspace.locate file node = location := by
  obtain ⟨file, node, present, -, located⟩ := given.exists_hasNode
  exact ⟨file, node, present, located⟩

/-- The file that the path of a location denotes, for one who asks about a path: the file that is asked, when the two
paths are the same, and else the file that is indexed under the path. -/
def Denotes (workspace : Workspace) (asked : Path) (location : Location) (holder : SourceFile) : Prop :=
  ∃ path, location.path = some path ∧
    (if path.same asked then workspace.file? asked else workspace.file? path) = some holder

theorem denotes_of_file? {workspace : Workspace} (asked : Path) {location : Location} {path : Path} {holder : SourceFile}
    (named : location.path = some path) (present : workspace.file? path = some holder) :
    workspace.Denotes asked location holder := by
  refine ⟨path, named, ?_⟩
  split
  · rename_i here
    rw [← file?_congr workspace here]
    exact present
  · exact present

/-! ## Workspaces that calls have left -/

/-- A file that calls have left is that of a submission for its path. -/
theorem exists_submission_of_after {config : Config} {calls : List Call} {path : Path} {file : SourceFile}
    (present : (({ config := config } : Workspace).after calls).file? path = some file) :
    ∃ submission : Submission, submission.path.same path = true ∧ submission.file? config.origin = .ok (some file) := by
  rcases lastIndexed_or_spared present with ⟨event, last⟩ | ⟨-, before⟩
  · obtain ⟨given, ⟨submission, -, called, indexed⟩, stored⟩ := exists_file_of_lastIndexed last
    obtain rfl : given = file := Option.some.inj (stored.symm.trans present)
    obtain ⟨-, -, -, indexes, -⟩ := last
    refine ⟨submission, ?_, indexed⟩
    rw [called]
    exact indexes.2
  · cases before

/-- **A file that calls have left is stored under its own path and counts from the origin of the workspace.** -/
theorem fields_of_after {config : Config} {calls : List Call} {path : Path} {file : SourceFile}
    (present : (({ config := config } : Workspace).after calls).file? path = some file) :
    file.path.same path = true ∧ file.origin = config.origin := by
  obtain ⟨submission, named, indexed⟩ := exists_submission_of_after present
  obtain ⟨own, -, -, origin⟩ := Submission.fields_of_file? indexed
  exact ⟨own ▸ named, origin⟩

section Present

variable {workspace : Workspace} {asked : Path} {file : SourceFile} (present : workspace.file? asked = some file)
  (own : file.path.same asked = true) (node : Node)
include present own

theorem file?_own_path : workspace.file? file.path = some file :=
  (file?_congr workspace own).trans present

/-- The span of a node has a text when the file that its path has can cut it out. -/
theorem result_textOf_eq_some_iff {text : String} :
    (workspace.textOf asked node.src).result = .ok (some text) ↔
      ∃ path holder, (workspace.locate file node).path = some path ∧ workspace.file? path = some holder ∧
        holder.text? node.src = some text := by
  simp only [textOf, ask, present, locate, owner?_of_present (file?_own_path present own)]
  cases file.sourcePath? node.src.file <;> simp [Option.bind_eq_some_iff]

/-- A node has positions when the file that its path has can render them. -/
theorem region_locate_eq_some_iff {region : Region} :
    (workspace.locate file node).region = some region ↔
      ∃ path holder, (workspace.locate file node).path = some path ∧ workspace.file? path = some holder ∧
        holder.region? node.src = some region := by
  simp only [locate, owner?_of_present (file?_own_path present own)]
  cases file.sourcePath? node.src.file <;> simp [Option.bind_eq_some_iff]

end Present

/-! ## Texts and locations -/

/-- **The text of a location is the text at its positions**, in every workspace that calls have left.  A location whose
span has a text has a path and positions, and selecting the positions in the file that the path denotes gives bytes with
the start, the length and the text of the span.  A location with positions has a text when its ends are character
boundaries of that file. -/
theorem text_agrees (config : Config) (calls : List Call) {asked : Path} {location : Location}
    (given : (({ config := config } : Workspace).after calls).GivesOut asked location) :
    let reached := ({ config := config } : Workspace).after calls
    (∀ text, (reached.textOf asked location.src).result = .ok (some text) →
      ∃ region holder, location.region = some region ∧ reached.Denotes asked location holder ∧
        (holder.lines.Shows config.origin location.src →
          ∃ span, holder.span? (Region.ofLsp config.origin (region.toLsp config.origin)) = some span ∧
            span.start = location.src.start ∧ span.length = location.src.length ∧ holder.text? span = some text)) ∧
    (location.region.isSome = true →
      ∃ holder, reached.Denotes asked location holder ∧
        (Text.Boundary holder.content.toList location.src.start.toInt.toNat →
          Text.Boundary holder.content.toList (location.src.start.toInt + location.src.length.toInt).toNat →
          ∃ text, (reached.textOf asked location.src).result = .ok (some text))) := by
  intro reached
  obtain ⟨file, node, present, rfl⟩ := given.exists_node
  have own := (fields_of_after present).1
  have src : (reached.locate file node).src = node.src := rfl
  rw [src]
  constructor
  · intro text excerpted
    obtain ⟨path, holder, named, held, excerpt⟩ := (result_textOf_eq_some_iff present own node).mp excerpted
    have valid := SourceFile.isValid_of_text? excerpt
    obtain ⟨region, rendered⟩ : ∃ region, holder.region? node.src = some region :=
      ⟨_, LineTable.region?_of_isValid valid⟩
    have shown := (region_locate_eq_some_iff present own node).mpr ⟨path, holder, named, held, rendered⟩
    refine ⟨region, holder, shown, denotes_of_file? asked named held, fun fits => ?_⟩
    rw [← (fields_of_after held).2] at fits ⊢
    obtain ⟨span, selected, start, length, same⟩ := SourceFile.exists_span_of_region? fits rendered
    exact ⟨span, selected, start, length, same.trans excerpt⟩
  · intro shown
    obtain ⟨region, located⟩ := Option.isSome_iff_exists.mp shown
    obtain ⟨path, holder, named, held, rendered⟩ := (region_locate_eq_some_iff present own node).mp located
    refine ⟨holder, denotes_of_file? asked named held, fun start stop => ?_⟩
    have valid : node.src.isValid = true := by
      rw [← holder.lines.isSome_region? holder.origin holder.origin]
      exact Option.isSome_of_eq_some rendered
    obtain ⟨text, excerpt⟩ := SourceFile.exists_text? valid start stop
    exact ⟨text, (result_textOf_eq_some_iff present own node).mpr ⟨path, holder, named, held, excerpt⟩⟩

/-! ## The sample calls -/

/-- Both sources of the sample compilation are indexed; the declaration in the first has a character of two bytes. -/
def linkedCalls (output : Output) : List Call :=
  [.ingest (.ofText "token.sol") "y y\n" "0.8.28" output, .ingest (.ofText "library.sol") "int é;\n" "0.8.28" output]

theorem linkedCalls_facts : ∀ output ∈ (Output.ofJson linkedAnswer).toOption,
    let reached := ({} : Workspace).after (linkedCalls output)
    (∃ file ∈ reached.file? (.ofText "token.sol"), ∃ node ∈ file.definitionAt? ⟨⟨1, 1⟩, ⟨1, 2⟩⟩,
      (reached.locate file node).src = ⟨0, 6, 1⟩ ∧ (reached.locate file node).path = some (.ofText "library.sol")) ∧
    (reached.textOf (.ofText "token.sol") ⟨0, 6, 1⟩).result = .ok (some "int é") ∧
    ∀ holder ∈ reached.file? (.ofText "library.sol"), holder.content = "int é;\n" := by
  decide +kernel

/-- The declaration of the sample, seen from the other source. -/
theorem text_agrees_sample :
    ∃ output location holder, Output.ofJson linkedAnswer = .ok output ∧
      let reached := ({} : Workspace).after (linkedCalls output)
      reached.GivesOut (.ofText "token.sol") location ∧ reached.Denotes (.ofText "token.sol") location holder ∧
      (reached.textOf (.ofText "token.sol") location.src).result = .ok (some "int é") ∧
      ∃ region span, location.region = some region ∧
        holder.span? (Region.ofLsp defaultOrigin (region.toLsp defaultOrigin)) = some span ∧
        span.start = 0 ∧ span.length = 6 ∧ holder.text? span = some "int é" := by
  obtain ⟨output, read⟩ := linkedAnswer_read
  obtain ⟨⟨file, present, node, found, src, named⟩, excerpted, library⟩ :=
    linkedCalls_facts output (by rw [read]; rfl)
  let reached := ({} : Workspace).after (linkedCalls output)
  have answered : (reached.definition (.ofText "token.sol") ⟨⟨1, 1⟩, ⟨1, 2⟩⟩).result =
      .ok (some (reached.locate file node)) := by
    simp [definition, ask, Option.mem_def.mp present, Option.mem_def.mp found, reached]
  have given : reached.GivesOut (.ofText "token.sol") (reached.locate file node) := .definition answered
  obtain ⟨agrees, -⟩ := text_agrees {} (linkedCalls output) given
  rw [src] at agrees
  obtain ⟨region, holder, shown, denotes, selects⟩ := agrees "int é" excerpted
  have content : holder.content = "int é;\n" := by
    obtain ⟨path, same, held⟩ := denotes
    obtain rfl : (.ofText "library.sol") = path := Option.some.inj (named.symm.trans same)
    exact library holder held
  have fits : holder.lines.Shows defaultOrigin ⟨0, 6, 1⟩ := by
    have start : (LineTable.ofText "int é;\n").Fits defaultOrigin defaultOrigin 0 := ⟨by decide +kernel, by decide +kernel⟩
    have stop : (LineTable.ofText "int é;\n").Fits defaultOrigin defaultOrigin 6 := ⟨by decide +kernel, by decide +kernel⟩
    rw [holder.lines_eq, content]
    exact ⟨by decide, start, stop⟩
  obtain ⟨span, selected, start, length, text⟩ := selects fits
  refine ⟨output, reached.locate file node, holder, read, given, denotes, ?_, region, span, shown, selected, start, length,
    text⟩
  rw [src]
  exact excerpted

end Workspace

end SolidityNav
