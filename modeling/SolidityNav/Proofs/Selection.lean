/-
# Proofs.Selection -- selecting a token that is shown finds its node

An editor is shown the region of a node, keeps it in its own coordinates and sends it back as a selection
(`SourceFile.wholeToken?`).  The selection covers the bytes of the node again (`Proofs.LineTable`), and the index answers
for them with the first node in postorder that has these bytes (`Proofs.Index.Lookup`), also after other indexes were
merged in.  `nodeAt?_wholeToken` puts the two together.
-/
import SolidityNav.Navigation
import SolidityNav.Proofs.Index.Arena
import SolidityNav.Proofs.Index.Lookup
import SolidityNav.Proofs.Index.Merging
import SolidityNav.Proofs.LineTable

namespace SolidityNav

set_option autoImplicit false

open SolidityNav.Ast (Node RawNode)

/-! ## The node of a span -/

/-- For a span that one of its nodes has, an index gives the first node that has it, whatever was merged in. -/
theorem Index.exists_first_of_hasExtent {root : RawNode} (filable : root.Filable) {others : List Index}
    (apart : ∀ other ∈ others, root.index.Apart other) {span : Span} (valid : span.isValid = true) {raw : RawNode}
    (member : raw ∈ root.postorder) (extent : raw.hasExtent span = true) :
    ∃ first node, root.postorder.find? (RawNode.hasExtent span) = some first ∧
      root.index.node? first.id = some node ∧ first.span? = some node.src ∧
      (others.foldl merge root.index).atSpan? span = some node := by
  obtain ⟨first, found⟩ : ∃ first, root.postorder.find? (RawNode.hasExtent span) = some first := by
    rw [← Option.isSome_iff_exists, List.find?_isSome]
    exact ⟨raw, member, extent⟩
  obtain ⟨node, stored, -, -, src, -⟩ := (faithful_index filable).stored first (List.mem_of_find?_eq_some found)
  refine ⟨first, node, found, stored, src, ?_⟩
  rw [atSpan?, offsets_foldl_merge, atSpan?_index valid member extent, found]
  exact node?_foldl_merge_of_apart apart stored

namespace SourceFile

/-! ## The selection of a span -/

/-- What an editor selects that was shown a span: the region in its own coordinates, made into a query again. -/
def wholeToken? (file : SourceFile) (span : Span) : Option Region :=
  (file.region? span).map fun region => Region.ofLsp file.origin (region.toLsp file.origin)

theorem exists_wholeToken {file : SourceFile} {span : Span} (shown : file.lines.Shows file.origin span) :
    ∃ selection, file.wholeToken? span = some selection ∧
      file.span? selection = some ⟨span.start, span.length, file.number⟩ := by
  have rendered : file.region? span = some _ := LineTable.region?_of_isValid shown.valid
  have ascending : file.lines.breaks.toList.Pairwise (· < ·) := by
    rw [file.lines_eq]
    exact LineTable.ofText_ascending file.content
  refine ⟨_, by rw [wholeToken?, rendered]; rfl, ?_⟩
  exact LineTable.span?_ofLsp_toLsp ascending shown rendered file.number

/-- **Selecting a whole token finds the first node with its bytes**, and leads on from there as that node does. -/
theorem nodeAt?_wholeToken {ast : Json} {own : Index} (built : Index.build ast = .ok own) (others : List Index)
    (apart : ∀ other ∈ others, own.Apart other) (file : SourceFile)
    (indexed : file.index = others.foldl Index.merge own) :
    ∃ root, RawNode.ofJson? ast = some root ∧
      ∀ raw ∈ root.postorder, ∀ span, raw.span? = some span → file.lines.Shows file.origin span →
        ∃ selection, file.wholeToken? span = some selection ∧
          (∃ first node, root.postorder.find? (RawNode.hasExtent span) = some first ∧
            own.node? first.id = some node ∧ file.nodeAt? selection = some node ∧
            node.src.start = span.start ∧ node.src.length = span.length) ∧
          ((∀ other ∈ root.postorder, other.hasExtent span = true → other.id = raw.id) →
            ∃ node, own.node? raw.id = some node ∧
              file.definitionAt? selection = file.index.definition? node ∧
              file.referencesAt? selection = file.index.references? node) := by
  obtain ⟨root, read, filable, rfl⟩ := Index.build_eq_ok_iff.mp built
  refine ⟨root, read, fun raw member span parsed shown => ?_⟩
  obtain ⟨selection, selected, bytes⟩ := exists_wholeToken shown
  have extent : raw.hasExtent span = true := RawNode.hasExtent_iff.mpr ⟨span, parsed, rfl, rfl⟩
  obtain ⟨first, node, found, stored, src, answer⟩ := Index.exists_first_of_hasExtent filable apart shown.valid member extent
  have firstExtent : first.hasExtent span = true := List.find?_some found
  have hit : file.nodeAt? selection = some node := by
    rw [nodeAt?, bytes, Option.bind_eq_bind, Option.bind_some, indexed]
    exact answer
  refine ⟨selection, selected, ⟨first, node, found, stored, hit, ?_⟩, fun unique => ?_⟩
  · obtain ⟨firstSpan, firstParsed, start, length⟩ := RawNode.hasExtent_iff.mp firstExtent
    rw [src, Option.some.injEq] at firstParsed
    subst firstParsed
    exact ⟨start, length⟩
  · have same : first.id = raw.id := unique first (List.mem_of_find?_eq_some found) firstExtent
    refine ⟨node, same ▸ stored, ?_, ?_⟩
    · rw [definitionAt?, hit]
      rfl
    · rw [referencesAt?, hit]
      rfl

/-! ## The sample file -/

def sample (index : Index) : SourceFile :=
  .make (.ofText "token.sol") "uint x;\nx\n" "0.8.28" 0 [] 1 index

/-- An AST of another source with a node over the bytes of the identifier in the sample. -/
def importedAst : Json :=
  .object [("id", .int 20), ("nodeType", .string "SourceUnit"), ("src", .string "8:1:1")]

theorem sample_shows (index : Index) : (sample index).lines.Shows (sample index).origin ⟨8, 1, 0⟩ := by
  have start : (LineTable.ofText "uint x;\nx\n").Fits 1 1 8 := ⟨by decide +kernel, by decide +kernel⟩
  have stop : (LineTable.ofText "uint x;\nx\n").Fits 1 1 9 := ⟨by decide +kernel, by decide +kernel⟩
  exact ⟨by decide, start, stop⟩

/-- The identifier of the sample is the only node with its bytes. -/
theorem sample_identifier : ∃ root ∈ RawNode.ofJson? Index.sampleAst, ∃ raw ∈ root.postorder,
    raw.id = 5 ∧ raw.span? = some ⟨8, 1, 0⟩ ∧
      ∀ other ∈ root.postorder, other.hasExtent ⟨8, 1, 0⟩ = true → other.id = raw.id := by
  decide +kernel

theorem sample_apart {own imported : Index} (built : Index.build Index.sampleAst = .ok own)
    (builtImported : Index.build importedAst = .ok imported) : own.Apart imported := by
  -- Ids are words, and deciding a statement for all of them would go through every word.
  have checked : ∀ own ∈ (Index.build Index.sampleAst).toOption, ∀ imported ∈ (Index.build importedAst).toOption,
      (own.nodes.keys.all fun id => !imported.nodes.contains id) = true := by
    decide +kernel
  rw [built, builtImported] at checked
  exact Index.apart_iff_all.mpr (checked own rfl imported rfl)

/-- The sample with the other source merged in: the selection is on the second line, where columns are not shifted. -/
theorem nodeAt?_wholeToken_sample :
    ∃ own imported, Index.build Index.sampleAst = .ok own ∧ Index.build importedAst = .ok imported ∧
      own.Apart imported ∧ ∃ selection node,
        (sample (own.merge imported)).wholeToken? ⟨8, 1, 0⟩ = some selection ∧ own.node? 5 = some node ∧
        (sample (own.merge imported)).definitionAt? selection = (own.merge imported).definition? node ∧
        (sample (own.merge imported)).referencesAt? selection = (own.merge imported).references? node := by
  obtain ⟨own, built⟩ := Index.sampleAst_build
  obtain ⟨imported, builtImported⟩ : ∃ imported, Index.build importedAst = .ok imported :=
    Index.exists_of_isOk (by decide +kernel)
  have apart := sample_apart built builtImported
  obtain ⟨root, read, law⟩ :=
    nodeAt?_wholeToken built [imported] (by simpa using apart) (sample (own.merge imported)) rfl
  obtain ⟨same, sameRead, raw, member, id, parsed, unique⟩ := sample_identifier
  obtain rfl : root = same := Option.some.inj (read.symm.trans sameRead)
  obtain ⟨selection, selected, -, leads⟩ := law raw member ⟨8, 1, 0⟩ parsed (sample_shows _)
  obtain ⟨node, stored, definition, references⟩ := leads unique
  rw [id] at stored
  exact ⟨own, imported, built, builtImported, apart, selection, node, selected, stored, definition, references⟩

end SourceFile

end SolidityNav
