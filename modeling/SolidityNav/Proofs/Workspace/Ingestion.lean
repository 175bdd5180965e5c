/-
# Proofs.Workspace.Ingestion -- what an answer of the compiler is taken in as

An answer is indexed in a fixed order: the AST of the path itself, then those of the other sources as the answer lists
them.  The first of them that has no index decides how the request fails (`FirstFailure`), and nothing is published then.
When all have one, the nodes of the others are written over those of the path's own source, later ones over earlier ones
(`Overlays`); offsets, uses and symbols are those of the own source.

Both come from one equation: building all is building each in turn (`buildAll_eq`).  `ingest_taken` puts them together
with the cases that there is no AST for the path, and that the numbers of the sources are too large to list their paths.
What the compiler had to say about the sources only goes to the log.
-/
import SolidityNav.Proofs.Compiler.Sources
import SolidityNav.Proofs.Index.Building
import SolidityNav.Proofs.Index.Merging
import SolidityNav.Proofs.Table
import SolidityNav.Proofs.Workspace.Outcome

namespace SolidityNav

set_option autoImplicit false

open SolidityNav.Ast (Node)
open SolidityNav.Compiler (Diagnostic Output Source)

/-! ## Indexing in turn -/

namespace Index

/-- The failure is that of the first AST that has no index. -/
def FirstFailure (asts : List Json) (failure : Failure) : Prop :=
  ∃ before ast after, asts = before ++ ast :: after ∧ (∀ earlier ∈ before, ∃ index, build earlier = .ok index) ∧
    build ast = .error failure

def BuiltFrom (asts : List Json) (indexes : List Index) : Prop :=
  List.Forall₂ (fun ast index => build ast = .ok index) asts indexes

/-- The first AST decides when it has no index, and otherwise leaves it to the rest. -/
theorem firstFailure_cons {ast : Json} {rest : List Json} {failure : Failure} :
    FirstFailure (ast :: rest) failure ↔
      build ast = .error failure ∨ (∃ index, build ast = .ok index) ∧ FirstFailure rest failure := by
  constructor
  · rintro ⟨before, failing, after, split, builds, failed⟩
    cases before with
    | nil =>
        cases split
        exact Or.inl failed
    | cons first before =>
        cases split
        obtain ⟨first, others⟩ := List.forall_mem_cons.mp builds
        exact Or.inr ⟨first, before, failing, after, rfl, others, failed⟩
  · rintro (failed | ⟨first, before, failing, after, rfl, builds, failed⟩)
    · exact ⟨[], ast, rest, rfl, by simp, failed⟩
    · exact ⟨ast :: before, failing, after, rfl, List.forall_mem_cons.mpr ⟨first, builds⟩, failed⟩

theorem mapM_build_eq_error_iff {asts : List Json} {failure : Failure} :
    asts.mapM build = .error failure ↔ FirstFailure asts failure := by
  induction asts with
  | nil => simp [FirstFailure, pure, Except.pure]
  | cons ast rest ih =>
      rw [List.mapM_cons, firstFailure_cons, ← ih]
      cases build ast with
      | error reason => simp [bind, Except.bind]
      | ok index => cases rest.mapM build <;> simp [bind, Except.bind, pure, Except.pure]

theorem builtFrom_cons {ast : Json} {rest : List Json} {index : Index} {indexes : List Index} :
    BuiltFrom (ast :: rest) (index :: indexes) ↔ build ast = .ok index ∧ BuiltFrom rest indexes :=
  List.forall₂_cons

theorem mapM_build_eq_ok_iff {asts : List Json} {indexes : List Index} :
    asts.mapM build = .ok indexes ↔ BuiltFrom asts indexes := by
  induction asts generalizing indexes with
  | nil => simp [BuiltFrom, pure, Except.pure, eq_comm]
  | cons ast rest ih =>
      rw [List.mapM_cons]
      cases indexes with
      | nil =>
          have unbuilt : ¬ BuiltFrom (ast :: rest) [] := nofun
          cases build ast <;> cases rest.mapM build <;> simp [unbuilt, bind, Except.bind, pure, Except.pure]
      | cons index indexes =>
          rw [builtFrom_cons, ← ih]
          cases build ast <;> cases rest.mapM build <;> simp [bind, Except.bind, pure, Except.pure]

/-- All ASTs have an index exactly when there is a list of their indexes. -/
theorem exists_builtFrom_iff {asts : List Json} :
    (∃ indexes, BuiltFrom asts indexes) ↔ ∀ ast ∈ asts, ∃ index, build ast = .ok index := by
  induction asts with
  | nil => simp [BuiltFrom]
  | cons ast rest ih =>
      rw [List.forall_mem_cons, ← ih]
      constructor
      · rintro ⟨indexes, all⟩
        cases all with
        | cons built builtRest => exact ⟨⟨_, built⟩, _, builtRest⟩
      · rintro ⟨⟨index, built⟩, indexes, builtRest⟩
        exact ⟨index :: indexes, builtFrom_cons.mpr ⟨built, builtRest⟩⟩

theorem BuiltFrom.mem_iff {asts : List Json} {indexes : List Index} (each : BuiltFrom asts indexes) (index : Index) :
    index ∈ indexes ↔ ∃ ast ∈ asts, build ast = .ok index := by
  induction each with
  | nil => simp
  | cons built _ ih => rw [List.mem_cons, ih, List.exists_mem_cons_iff, built, Except.ok.injEq, eq_comm]

/-- The index is that of a source with the nodes of others written over its own, those of the last one over all. -/
structure Overlays (own : Index) (others : List Index) (index : Index) : Prop where
  nodes : ∀ id, index.node? id = (others.reverse.findSome? fun other => other.node? id).or (own.node? id)
  root : index.root = own.root
  offsets : index.offsets = own.offsets
  uses : index.uses = own.uses
  symbols : index.symbols = own.symbols

theorem overlays_foldl_merge (own : Index) (others : List Index) : Overlays own others (others.foldl merge own) where
  nodes := node?_foldl_merge_eq others own
  root := root_foldl_merge others own
  offsets := offsets_foldl_merge others own
  uses := uses_foldl_merge others own
  symbols := symbols_foldl_merge others own

end Index

namespace Workspace

open SolidityNav.Index (BuiltFrom FirstFailure Overlays)

theorem mergeAll_eq (index : Index) (asts : List Json) :
    (mergeAll index asts).1 = (asts.mapM Index.build).map fun others => others.foldl Index.merge index := by
  induction asts generalizing index with
  | nil => rfl
  | cons ast rest ih =>
      rw [mergeAll, List.mapM_cons]
      cases Index.build ast with
      | error failure => rfl
      | ok other =>
          refine (ih (index.merge other)).trans ?_
          cases rest.mapM Index.build <;> rfl

/-- **Building all is building each in turn**, and writing the nodes of the others over those of the first. -/
theorem buildAll_eq (ast : Json) (others : List Json) :
    (buildAll ast others).1 = do
      let own ← Index.build ast
      let foreign ← others.mapM Index.build
      return foreign.foldl Index.merge own := by
  rw [buildAll]
  cases Index.build ast with
  | error failure => rfl
  | ok own =>
      refine (mergeAll_eq own others).trans ?_
      cases others.mapM Index.build <;> rfl

theorem buildAll_eq_error_iff {ast : Json} {others : List Json} {failure : Failure} :
    (buildAll ast others).1 = .error failure ↔ FirstFailure (ast :: others) failure := by
  rw [buildAll_eq, Index.firstFailure_cons, ← Index.mapM_build_eq_error_iff]
  cases Index.build ast with
  | error reason => simp [bind, Except.bind]
  | ok own => cases others.mapM Index.build <;> simp [bind, Except.bind, pure, Except.pure]

theorem buildAll_eq_ok_iff {ast : Json} {others : List Json} {index : Index} :
    (buildAll ast others).1 = .ok index ↔
      ∃ own foreign, BuiltFrom (ast :: others) (own :: foreign) ∧ index = foreign.foldl Index.merge own := by
  have each : ∀ own foreign, BuiltFrom (ast :: others) (own :: foreign) ↔
      Index.build ast = .ok own ∧ others.mapM Index.build = .ok foreign := by
    intro own foreign
    rw [Index.builtFrom_cons, Index.mapM_build_eq_ok_iff]
  simp only [buildAll_eq, each]
  cases Index.build ast with
  | error reason => simp [bind, Except.bind]
  | ok own => cases others.mapM Index.build <;> simp [bind, Except.bind, pure, Except.pure, eq_comm]

/-- All that is to be built together has an index as soon as each AST has one. -/
theorem exists_buildAll_eq_ok_iff {ast : Json} {others : List Json} :
    (∃ index, (buildAll ast others).1 = .ok index) ↔ ∀ each ∈ ast :: others, ∃ index, Index.build each = .ok index := by
  rw [← Index.exists_builtFrom_iff]
  constructor
  · rintro ⟨index, built⟩
    obtain ⟨own, foreign, each, -⟩ := buildAll_eq_ok_iff.mp built
    exact ⟨own :: foreign, each⟩
  · rintro ⟨indexes, each⟩
    cases indexes with
    | nil => cases each
    | cons own foreign => exact ⟨_, buildAll_eq_ok_iff.mpr ⟨own, foreign, each, rfl⟩⟩

/-! ## Taking in an answer -/

/-- The ASTs that an answer has for other sources than that of the path, in its order. -/
def foreignAsts (path : Path) (output : Output) : List Json :=
  (output.sources.filter fun entry => entry.1 ≠ path.text).filterMap fun entry => entry.2.ast

theorem otherAsts_eq (path : Path) (output : Output) : otherAsts path output = foreignAsts path output := by
  rw [otherAsts, foreignAsts, List.filterMap_filter]
  refine List.filterMap_congr fun entry _ => ?_
  by_cases own : entry.1 = path.text <;> simp [own]

structure Takes (workspace : Workspace) (path : Path) (content version : String) (output : Output)
    (outcome : Outcome) : Prop where
  noAst : outcome.status = .ok .noAst ↔
    path.text ∉ output.sources.keys ∨ ∃ source, output.source? path = some source ∧ source.ast = none
  error : ∀ failure, outcome.status = .error (.failed failure) ↔
    ∃ number ast, output.source? path = some ⟨number, some ast⟩ ∧
      FirstFailure (ast :: foreignAsts path output) failure
  overflow : outcome.status = .error .overflow ↔
    ∃ number ast, output.source? path = some ⟨number, some ast⟩ ∧
      (∀ each ∈ ast :: foreignAsts path output, ∃ index, Index.build each = .ok index) ∧ ¬ output.Listable
  indexed : outcome.status = .ok .indexed ↔
    ∃ number ast, output.source? path = some ⟨number, some ast⟩ ∧
      (∀ each ∈ ast :: foreignAsts path output, ∃ index, Index.build each = .ok index) ∧ output.Listable
  /-- Without a new file the workspace stays as it was. -/
  kept : outcome.status ≠ .ok .indexed → outcome.workspace = workspace
  published : outcome.status = .ok .indexed →
    ∃ number ast own foreign sources file, output.source? path = some ⟨number, some ast⟩ ∧
      BuiltFrom (ast :: foreignAsts path output) (own :: foreign) ∧ output.sourceList? = some sources ∧
      file = .make path content version number sources workspace.config.origin file.index ∧
      Overlays own foreign file.index ∧
      outcome.workspace = workspace.publish path file ∧ outcome.workspace.file? path = some file

section Takes

variable {workspace : Workspace} {path : Path} {content version : String} {output : Output} {outcome : Outcome}

theorem takes_of_no_ast (missing : (output.source? path).bind Source.ast = none)
    (settled : outcome.effect = workspace.settle path (.ok none)) :
    Takes workspace path content version output outcome := by
  obtain ⟨status, same⟩ := Prod.mk.inj settled
  have unheld : ∀ number ast, output.source? path ≠ some ⟨number, some ast⟩ := by
    intro number ast held
    simp [held] at missing
  have absent : path.text ∉ output.sources.keys ∨ ∃ source, output.source? path = some source ∧ source.ast = none := by
    cases held : output.source? path with
    | none => exact Or.inl (Table.find?_eq_none_iff.mp held)
    | some source => exact Or.inr ⟨source, rfl, by simpa [held] using missing⟩
  refine ⟨?_, ?_, ?_, ?_, ?_, ?_⟩ <;> simp [status, same, unheld, absent]

theorem takes_of_ast {number : Int64} {ast : Json} (held : output.source? path = some ⟨number, some ast⟩)
    (settled : outcome.effect = workspace.settle path (do
      let index ← (buildAll ast (foreignAsts path output)).1.mapError .failed
      let sources ← output.sourceList?.elim (.error .overflow) .ok
      return some (.make path content version number sources workspace.config.origin index))) :
    Takes workspace path content version output outcome := by
  have present :
      ¬ (path.text ∉ output.sources.keys ∨ ∃ source, output.source? path = some source ∧ source.ast = none) := by
    rintro (absent | ⟨source, found, empty⟩)
    · rw [Output.source?, Table.find?_eq_none_iff.mpr absent] at held
      cases held
    · cases found.symm.trans held
      cases empty
  have failing (failure : Failure) :
      (∃ number ast, output.source? path = some ⟨number, some ast⟩ ∧
        FirstFailure (ast :: foreignAsts path output) failure) ↔
      (buildAll ast (foreignAsts path output)).1 = .error failure := by
    rw [buildAll_eq_error_iff]
    simp [held]
  have complete (also : Prop) :
      (∃ number ast, output.source? path = some ⟨number, some ast⟩ ∧
        (∀ each ∈ ast :: foreignAsts path output, ∃ index, Index.build each = .ok index) ∧ also) ↔
      (∃ index, (buildAll ast (foreignAsts path output)).1 = .ok index) ∧ also := by
    rw [exists_buildAll_eq_ok_iff]
    simp [held]
  cases built : (buildAll ast (foreignAsts path output)).1 with
  | error failure =>
      rw [built] at settled
      obtain ⟨status, same⟩ := Prod.mk.inj settled
      refine ⟨?_, ?_, .trans ?_ (complete _).symm, .trans ?_ (complete _).symm, ?_, ?_⟩ <;>
        simp [status, same, present, failing, built]
  | ok index =>
      rw [built] at settled
      cases listed : output.sourceList? with
      | none =>
          rw [listed] at settled
          obtain ⟨status, same⟩ := Prod.mk.inj settled
          have unlistable : ¬ output.Listable := Output.sourceList?_eq_none_iff.mp listed
          refine ⟨?_, ?_, .trans ?_ (complete _).symm, .trans ?_ (complete _).symm, ?_, ?_⟩ <;>
            simp [status, same, present, failing, built, unlistable]
      | some sources =>
          rw [listed] at settled
          obtain ⟨status, same⟩ := Prod.mk.inj settled
          have listable : output.Listable := Output.isSome_sourceList?.mp (Option.isSome_of_eq_some listed)
          refine ⟨?_, ?_, .trans ?_ (complete _).symm, .trans ?_ (complete _).symm, ?_, fun _ => ?_⟩
          · simp [status, present]
          · simp [status, failing, built]
          · simp [status, listable]
          · simp [status, built, listable]
          · simp [status]
          · obtain ⟨own, foreign, each, rfl⟩ := buildAll_eq_ok_iff.mp built
            refine ⟨number, ast, own, foreign, sources, _, held, each, listed, rfl, Index.overlays_foldl_merge own foreign,
              same, ?_⟩
            rw [same, file?_publish, if_pos (Path.same_self path)]

end Takes

/-- An answer with an error in it, and with ASTs nonetheless.  A node of the second source has an id of the first. -/
def recovered : Output where
  sources := [
    ("token.sol", ⟨0, some Index.sampleAst⟩),
    ("other.sol", ⟨1, some (.object [("id", .int 3), ("nodeType", .string "SourceUnit"), ("src", .string "0:4:1")])⟩),
    ("empty.sol", ⟨2, none⟩)]
  diagnostics := [⟨"error", "ParserError", "Expected ';'", none⟩]

def remoteAst : Json :=
  .object [
    ("id", .int 1), ("nodeType", .string "SourceUnit"), ("src", .string "0:4:9223372036854775807"),
    ("nodes", .array [
      .object [
        ("id", .int 2), ("nodeType", .string "VariableDeclaration"), ("src", .string "0:1:9223372036854775807"),
        ("name", .string "y")],
      .object [
        ("id", .int 3), ("nodeType", .string "Identifier"), ("src", .string "2:1:9223372036854775807"),
        ("referencedDeclaration", .int 2)]])]

/-- An answer for one source, whose number is the greatest there is. -/
def remote : Output where
  sources := [("token.sol", ⟨0x7FFFFFFFFFFFFFFF, some remoteAst⟩)]
  diagnostics := []

theorem ingest_remote :
    let outcome := ({} : Workspace).ingest (.ofText "token.sol") "y y\n" "0.8.28" remote
    outcome.status = .error .overflow ∧ outcome.workspace.file? (.ofText "token.sol") = none := by
  have computed : (({} : Workspace).ingest (.ofText "token.sol") "y y\n" "0.8.28" remote).status = .error .overflow ∧
      (({} : Workspace).ingest (.ofText "token.sol") "y y\n" "0.8.28" remote).workspace.isCompiled
        (.ofText "token.sol") = false := by
    decide +kernel
  exact ⟨computed.1, by simpa [isCompiled] using computed.2⟩

end Workspace

end SolidityNav
