/-
# Proofs.Workspace.Outcome -- what a request to compile comes to

The file of a path after a file was published or forgotten is read by cases on the two paths (`file?_publish`,
`file?_evict`).

A request is served by the file that is there, or it ends in one of three ways: it halts, the compiler gives no AST, or
there is a new file.  Which one depends on what is submitted, that is a text with its path, the version of the compiler
and the compiler's answer, and on the origin of positions (`Submission.file?`).  `Workspace.settle` says what each of the
three does to the workspace; `ingest_settles` and `compile_settles` bring both operations to it, so that no later proof
looks into them.
-/
import SolidityNav.Proofs.Json.Decode
import SolidityNav.Proofs.Path
import SolidityNav.Workspace

namespace SolidityNav

set_option autoImplicit false

open SolidityNav.Compiler (Imports Output)

namespace Workspace

/-! ## Files -/

theorem file?_congr (workspace : Workspace) {a b : Path} (alike : a.same b = true) :
    workspace.file? a = workspace.file? b := by
  have asked : (fun entry : Path × SourceFile => entry.1.same a) = fun entry => entry.1.same b := by
    funext entry
    rw [Path.same_comm entry.1, Path.same_comm entry.1, Path.same_left alike]
  rw [file?, file?, asked]

theorem find?_storeIn (path other : Path) (file : SourceFile) (files : List (Path × SourceFile)) :
    ((storeIn path file files).find? fun (key, _) => key.same other).map Prod.snd =
      if path.same other then some file else (files.find? fun (key, _) => key.same other).map Prod.snd := by
  induction files with
  | nil => cases asked : path.same other <;> simp [storeIn, asked]
  | cons entry rest ih =>
      obtain ⟨key, old⟩ := entry
      rw [storeIn]
      by_cases here : key.same path = true
      · have alike := Path.same_left here other
        cases asked : path.same other <;> simp [here, alike, asked]
      · rw [if_neg here]
        by_cases first : key.same other = true
        · have apart : path.same other = false := by
            rw [← Bool.not_eq_true]
            intro alike
            rw [Path.same_comm] at alike
            exact here ((Path.same_iff.mpr ((Path.same_iff.mp first).trans (Path.same_iff.mp alike))))
          simp [first, apart]
        · simpa [first] using ih

/-- A published file is that of its path, and no other path has another file than before. -/
theorem file?_publish (workspace : Workspace) (path other : Path) (file : SourceFile) :
    (workspace.publish path file).file? other = if path.same other then some file else workspace.file? other :=
  find?_storeIn path other file workspace.files

/-- A path whose file is forgotten has none, and any other path has the file it had. -/
theorem file?_evict (workspace : Workspace) (path other : Path) :
    (workspace.evict path).file? other = if path.same other then none else workspace.file? other := by
  rw [file?, evict, List.find?_filter]
  by_cases alike : path.same other = true
  · have none_left : (workspace.files.find? fun entry => !entry.1.same path && entry.1.same other) = none := by
      rw [List.find?_eq_none]
      intro entry _
      rw [Path.same_comm entry.1, Path.same_comm entry.1, Path.same_left alike]
      simp
    simp [alike, none_left]
  · have asked : (fun entry : Path × SourceFile => !entry.1.same path && entry.1.same other) =
        fun entry => entry.1.same other := by
      funext entry
      by_cases first : entry.1.same other = true
      · have apart : entry.1.same path = false := by
          rw [← Bool.not_eq_true]
          intro here
          exact alike ((Path.same_left here other).symm.trans first)
        simp [first, apart]
      · simp [first]
    simp [alike, asked, file?]

/-! ## Submissions -/

structure Submission where
  path : Path
  content : String
  version : String
  output : Output

/-- The file that a submission gives: none when there is no AST for its path.  It gives nothing when one of the ASTs has no
index, or when the list of paths would be too long. -/
def Submission.file? (origin : UInt32) (submission : Submission) : Except Halt (Option SourceFile) :=
  match submission.output.source? submission.path with
  | some ⟨number, some ast⟩ => do
      let index ← (buildAll ast (otherAsts submission.path submission.output)).1.mapError .failed
      let sources ← submission.output.sourceList?.elim (.error .overflow) .ok
      return some (.make submission.path submission.content submission.version number sources origin index)
  | _ => .ok none

def Submission.compiled (config : Config) (compiler : Compiler) (imports : Imports) (content : String) (path : Path) :
    Except Failure Submission := do
  let request := Compiler.standardInput path.text content compiler.version config.standardInput
  let output ← Output.ofJson (← (compiler.run request imports).mapError .compiler)
  return ⟨path, content, compiler.version, output⟩

def compiledFile? (config : Config) (compiler : Compiler) (imports : Imports) (content : String) (path : Path) :
    Except Halt (Option SourceFile) := do
  (← (Submission.compiled config compiler imports content path).mapError .failed).file? config.origin

theorem Submission.fields_of_compiled {config : Config} {compiler : Compiler} {imports : Imports} {content : String}
    {path : Path} {submission : Submission}
    (compiled : Submission.compiled config compiler imports content path = .ok submission) :
    submission.path = path ∧ submission.content = content ∧ submission.version = compiler.version := by
  rw [Submission.compiled] at compiled
  obtain ⟨answer, -, read⟩ := exists_of_bind_eq_ok compiled
  obtain ⟨output, -, same⟩ := exists_of_bind_eq_ok read
  cases same
  exact ⟨rfl, rfl, rfl⟩

/-- A file has the number of the source of its path, the paths behind all the numbers, and the index of all the ASTs. -/
theorem Submission.source_of_file? {origin : UInt32} {submission : Submission} {file : SourceFile}
    (indexed : submission.file? origin = .ok (some file)) :
    ∃ ast, submission.output.source? submission.path = some ⟨file.number, some ast⟩ ∧
      submission.output.sourceList? = some file.sources ∧
      (buildAll ast (otherAsts submission.path submission.output)).1 = .ok file.index ∧
      file = .make submission.path submission.content submission.version file.number file.sources origin file.index := by
  rw [Submission.file?] at indexed
  split at indexed
  · rename_i number ast found
    obtain ⟨index, built, further⟩ := exists_of_bind_eq_ok indexed
    obtain ⟨sources, given, same⟩ := exists_of_bind_eq_ok further
    cases same
    refine ⟨ast, found, ?_, eq_ok_of_mapError_eq_ok built, rfl⟩
    cases listed : submission.output.sourceList? with
    | none =>
        rw [listed] at given
        cases given
    | some list =>
        rw [listed] at given
        cases given
        rfl
  · cases indexed

theorem Submission.fields_of_file? {origin : UInt32} {submission : Submission} {file : SourceFile}
    (indexed : submission.file? origin = .ok (some file)) :
    file.path = submission.path ∧ file.content = submission.content ∧ file.version = submission.version ∧
      file.origin = origin := by
  obtain ⟨ast, -, -, -, same⟩ := Submission.source_of_file? indexed
  rw [same]
  exact ⟨rfl, rfl, rfl, rfl⟩

/-- A compiled file carries its text and the version of the compiler. -/
theorem fields_of_compiledFile? {config : Config} {compiler : Compiler} {imports : Imports} {content : String}
    {path : Path} {file : SourceFile} (compiled : compiledFile? config compiler imports content path = .ok (some file)) :
    file.path = path ∧ file.content = content ∧ file.version = compiler.version := by
  obtain ⟨submission, submitted, indexed⟩ := exists_of_bind_eq_ok compiled
  obtain ⟨path', content', version'⟩ := Submission.fields_of_compiled (eq_ok_of_mapError_eq_ok submitted)
  obtain ⟨ownPath, ownContent, ownVersion, -⟩ := Submission.fields_of_file? indexed
  exact ⟨ownPath.trans path', ownContent.trans content', ownVersion.trans version'⟩

/-! ## Settling a request -/

/-- What becomes of a request and of the workspace, by what compiling has given. -/
def settle (workspace : Workspace) (path : Path) : Except Halt (Option SourceFile) → Except Halt Status × Workspace
  | .error halt => (.error halt, workspace)
  | .ok none => (.ok .noAst, workspace)
  | .ok (some file) => (.ok .indexed, workspace.publish path file)

def Outcome.effect (outcome : Outcome) : Except Halt Status × Workspace :=
  (outcome.status, outcome.workspace)

theorem ingest_settles (workspace : Workspace) (path : Path) (content version : String) (output : Output) :
    (workspace.ingest path content version output).effect =
      workspace.settle path ((⟨path, content, version, output⟩ : Submission).file? workspace.config.origin) := by
  rw [ingest, Submission.file?]
  dsimp only
  cases output.source? path with
  | none => rfl
  | some source =>
      obtain ⟨number, ast?⟩ := source
      cases ast? with
      | none => rfl
      | some ast =>
          dsimp only
          cases buildAll ast (otherAsts path output) with
          | mk result log =>
              cases result with
              | error failure => rfl
              | ok index => cases output.sourceList? <;> rfl

section Compile

variable (workspace : Workspace) (compiler : Compiler) (imports : Imports) (content : String) (path : Path)

/-- A file serves for its own text and the version of its compiler, if files are kept at all. -/
theorem serves_iff {version : String} :
    workspace.serves path content version = true ↔
      workspace.config.useCache = true ∧
        ∃ file, workspace.file? path = some file ∧ file.content = content ∧ file.version = version := by
  have current (file : SourceFile) :
      file.isCurrent content version = true ↔ file.content = content ∧ file.version = version := by
    -- Equal texts have equal fingerprints, so comparing these first decides nothing.
    simp only [SourceFile.isCurrent, file.fingerprint_eq, Bool.and_eq_true, beq_iff_eq, and_assoc]
    exact ⟨fun all => all.2, fun both => ⟨congrArg Fingerprint.ofText both.1, both⟩⟩
  simp only [serves, Bool.and_eq_true, Option.any_eq_true, current]

theorem compile_served (served : workspace.serves path content compiler.version = true) :
    (workspace.compile (some compiler) imports content path).effect = (.ok .cached, workspace) ∧
      (workspace.compile (some compiler) imports content path).requests = [] := by
  simp only [compile, served, if_true, Outcome.effect, and_self]

/-- Otherwise the compiler is asked once, and what it answers is settled. -/
theorem compile_settles (unserved : workspace.serves path content compiler.version = false) :
    (workspace.compile (some compiler) imports content path).effect =
        workspace.settle path (compiledFile? workspace.config compiler imports content path) ∧
      (workspace.compile (some compiler) imports content path).requests =
        [Compiler.standardInput path.text content compiler.version workspace.config.standardInput] := by
  simp only [compile, Compiler.ask, unserved, Bool.false_eq_true, if_false, compiledFile?, Submission.compiled, bind,
    Except.bind, pure, Except.pure]
  cases compiler.run (Compiler.standardInput path.text content compiler.version workspace.config.standardInput)
      imports with
  | error text => exact ⟨rfl, rfl⟩
  | ok answer =>
      dsimp only [Except.mapError]
      cases Output.ofJson answer with
      | error failure => exact ⟨rfl, rfl⟩
      | ok output => exact ⟨ingest_settles workspace path content compiler.version output, rfl⟩

end Compile

end Workspace

end SolidityNav
