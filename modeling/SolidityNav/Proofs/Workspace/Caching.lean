/-
# Proofs.Workspace.Caching -- keeping files changes no answer

A workspace may keep the file of a text that was compiled before, or compile the text again.  As long as the compiler
gives the same answer to the same request, and each path is always written in the same way, nobody can tell which of
the two is done: the workspaces hold the same files after every request.

The reason is that every file which is kept is what compiling its own text gives (`Reproducible`), so compiling again
puts the same file back in its place (`storeIn_of_find?`).  `Alike` carries this along with the two workspaces, one
request at a time.  `caching_transparent` adds when a file is kept and what the compiler is then asked.
-/
import SolidityNav.Proofs.Workspace.History

namespace SolidityNav.Workspace

set_option autoImplicit false

open SolidityNav.Compiler (Imports)

/-! ## Requests -/

/-- A request to a workspace whose compiler stays the same. -/
inductive Request where
  | compile (content : String) (path : Path)
  | compileIfAbsent (content : String) (path : Path)
  | evict (path : Path)

namespace Request

def path : Request → Path
  | .compile _ path | .compileIfAbsent _ path | .evict path => path

def call (compiler : Compiler) (imports : Imports) : Request → Call
  | .compile content path => .compile (some compiler) imports content path
  | .compileIfAbsent content path => .compileIfAbsent (some compiler) imports content path
  | .evict path => .evict path

end Request

def SpelledAlike (paths : List Path) : Prop :=
  ∀ a ∈ paths, ∀ b ∈ paths, a.same b = true → a = b

def served (config : Config) (compiler : Compiler) (imports : Imports) (requests : List Request) : Workspace :=
  after { config := config } (requests.map (Request.call compiler imports))

/-! ## Queries see the files only -/

theorem answer_eq_of_files_eq {a b : Workspace} (same : a.files = b.files) (path : Path) (query : Query) :
    a.answer path query = b.answer path query := by
  obtain ⟨_, files⟩ := a
  obtain ⟨_, _⟩ := b
  cases same
  cases query <;> rfl

theorem file?_eq_of_files_eq {a b : Workspace} (same : a.files = b.files) (path : Path) :
    a.file? path = b.file? path := by
  rw [file?, file?, same]

/-! ## Putting a file in its place -/

theorem exists_key_of_file? {workspace : Workspace} {path : Path} {file : SourceFile}
    (found : workspace.file? path = some file) :
    ∃ key, key.same path = true ∧ workspace.files.find? (fun (key, _) => key.same path) = some (key, file) := by
  obtain ⟨⟨key, _⟩, stored, rfl⟩ := Option.map_eq_some_iff.mp found
  have same := List.find?_some stored
  exact ⟨key, same, stored⟩

/-- Storing the file that a path has changes nothing. -/
theorem storeIn_of_find? {path key : Path} {file : SourceFile} {files : List (Path × SourceFile)}
    (stored : files.find? (fun (key, _) => key.same path) = some (key, file)) : storeIn path file files = files := by
  induction files with
  | nil => cases stored
  | cons entry rest ih =>
      obtain ⟨first, old⟩ := entry
      rw [storeIn]
      by_cases here : first.same path = true
      · simp only [List.find?_cons, here] at stored
        cases stored
        rw [if_pos here]
      · simp only [List.find?_cons, here] at stored
        rw [if_neg here, ih stored]

/-- An entry after storing a file was there before, or it is the stored file under a writing of its path. -/
theorem mem_storeIn {path : Path} {file : SourceFile} {files : List (Path × SourceFile)} {entry : Path × SourceFile}
    (member : entry ∈ storeIn path file files) :
    entry ∈ files ∨ (entry.2 = file ∧ (entry.1 = path ∨ entry.1.same path = true ∧ entry.1 ∈ files.map Prod.fst)) := by
  induction files with
  | nil =>
      rw [storeIn, List.mem_singleton] at member
      subst member
      exact Or.inr ⟨rfl, Or.inl rfl⟩
  | cons first rest ih =>
      obtain ⟨key, old⟩ := first
      rw [storeIn] at member
      by_cases here : key.same path = true
      · rw [if_pos here] at member
        rcases List.mem_cons.mp member with rfl | inRest
        · exact Or.inr ⟨rfl, Or.inr ⟨here, List.mem_cons_self⟩⟩
        · exact Or.inl (List.mem_cons_of_mem _ inRest)
      · rw [if_neg here] at member
        rcases List.mem_cons.mp member with rfl | inRest
        · exact Or.inl List.mem_cons_self
        · rcases ih inRest with before | ⟨stored, named⟩
          · exact Or.inl (List.mem_cons_of_mem _ before)
          · exact Or.inr ⟨stored, named.imp id (And.imp id (List.mem_cons_of_mem _))⟩

/-! ## Two workspaces side by side -/

section Alike

variable (config : Config) (compiler : Compiler) (imports : Imports) (paths : List Path)

def Reproducible (entry : Path × SourceFile) : Prop :=
  compiledFile? config compiler imports entry.2.content entry.1 = .ok (some entry.2)

/-- A workspace that keeps files and one that does not hold the same files, each under one of `paths` and what compiling
its text gives. -/
structure Alike (cached plain : Workspace) : Prop where
  keeps : cached.config = { config with useCache := true }
  compiles : plain.config = { config with useCache := false }
  files : cached.files = plain.files
  reproducible : ∀ entry ∈ cached.files, Reproducible config compiler imports entry
  spelled : ∀ entry ∈ cached.files, entry.1 ∈ paths

variable {config compiler imports paths} {cached plain : Workspace}

theorem compiledFile?_useCache (useCache : Bool) (content : String) (path : Path) :
    compiledFile? { config with useCache := useCache } compiler imports content path =
      compiledFile? config compiler imports content path :=
  rfl

theorem Alike.publish (alike : Alike config compiler imports paths cached plain) (spelling : SpelledAlike paths)
    {content : String} {path : Path} (known : path ∈ paths) {file : SourceFile}
    (compiled : compiledFile? config compiler imports content path = .ok (some file)) :
    Alike config compiler imports paths (cached.publish path file) (plain.publish path file) where
  keeps := alike.keeps
  compiles := alike.compiles
  files := congrArg (storeIn path file) alike.files
  reproducible := by
    intro entry member
    obtain ⟨-, content', -⟩ := fields_of_compiledFile? compiled
    rcases mem_storeIn member with before | ⟨stored, named⟩
    · exact alike.reproducible entry before
    · have here : entry.1 = path := by
        rcases named with here | ⟨same, listed⟩
        · exact here
        · obtain ⟨other, inFiles, key⟩ := List.mem_map.mp listed
          exact spelling _ (key ▸ alike.spelled other inFiles) _ known same
      rw [Reproducible, stored, here, content']
      exact compiled
  spelled := by
    intro entry member
    rcases mem_storeIn member with before | ⟨-, here | ⟨-, listed⟩⟩
    · exact alike.spelled entry before
    · rw [here]
      exact known
    · obtain ⟨other, inFiles, key⟩ := List.mem_map.mp listed
      exact key ▸ alike.spelled other inFiles

theorem Alike.settle (alike : Alike config compiler imports paths cached plain) (spelling : SpelledAlike paths)
    (content : String) {path : Path} (known : path ∈ paths) :
    Alike config compiler imports paths
      (cached.settle path (compiledFile? config compiler imports content path)).2
      (plain.settle path (compiledFile? config compiler imports content path)).2 := by
  cases compiled : compiledFile? config compiler imports content path with
  | error failure => exact alike
  | ok result =>
      cases result with
      | none => exact alike
      | some file => exact alike.publish spelling known compiled

/-- Where one workspace keeps a file, the other compiles it again and puts it back. -/
theorem Alike.compile (alike : Alike config compiler imports paths cached plain) (spelling : SpelledAlike paths)
    (content : String) {path : Path} (known : path ∈ paths) :
    Alike config compiler imports paths (cached.compile (some compiler) imports content path).effect.2
      (plain.compile (some compiler) imports content path).effect.2 := by
  have again : plain.serves path content compiler.version = false := by
    rw [serves, alike.compiles]
    rfl
  rw [(compile_settles plain compiler imports content path again).1, alike.compiles, compiledFile?_useCache]
  cases served : cached.serves path content compiler.version with
  | false =>
      rw [(compile_settles cached compiler imports content path served).1, alike.keeps,
        compiledFile?_useCache]
      exact alike.settle spelling content known
  | true =>
      rw [(compile_served cached compiler imports content path served).1]
      obtain ⟨-, file, present, rfl, -⟩ := (serves_iff cached content path).mp served
      obtain ⟨key, same, stored⟩ := exists_key_of_file? present
      have inFiles := List.mem_of_find?_eq_some stored
      have here : key = path := spelling key (alike.spelled _ inFiles) path known same
      have reproduced : compiledFile? config compiler imports file.content key = .ok (some file) :=
        alike.reproducible (key, file) inFiles
      have unchanged : plain.publish path file = plain := by
        rw [Workspace.publish, storeIn_of_find? (alike.files ▸ stored)]
      rw [← here, reproduced, Workspace.settle, here, unchanged]
      exact alike

theorem Alike.perform (alike : Alike config compiler imports paths cached plain) (spelling : SpelledAlike paths)
    (request : Request) (known : request.path ∈ paths) :
    Alike config compiler imports paths (cached.perform (request.call compiler imports)).2
      (plain.perform (request.call compiler imports)).2 := by
  cases request with
  | compile content path => exact alike.compile spelling content known
  | compileIfAbsent content path =>
      have present : cached.isCompiled path = plain.isCompiled path := by
        rw [isCompiled, isCompiled, file?_eq_of_files_eq alike.files]
      simp only [Request.call, Workspace.perform, compileIfAbsent, present]
      split
      · exact alike
      · exact alike.compile spelling content known
  | evict path =>
      refine ⟨alike.keeps, alike.compiles, ?_, ?_, ?_⟩
      · simp only [Request.call, Workspace.perform, Workspace.evict, alike.files]
      · exact fun entry member => alike.reproducible entry (List.mem_filter.mp member).1
      · exact fun entry member => alike.spelled entry (List.mem_filter.mp member).1

theorem Alike.after (alike : Alike config compiler imports paths cached plain) (spelling : SpelledAlike paths)
    (requests : List Request) (known : ∀ request ∈ requests, request.path ∈ paths) :
    Alike config compiler imports paths (cached.after (requests.map (Request.call compiler imports)))
      (plain.after (requests.map (Request.call compiler imports))) := by
  induction requests generalizing cached plain with
  | nil => exact alike
  | cons request rest ih =>
      have next := alike.perform spelling request (known request List.mem_cons_self)
      exact ih next fun other member => known other (List.mem_cons_of_mem request member)

end Alike

theorem alike_served (config : Config) (compiler : Compiler) (imports : Imports) {requests done : List Request}
    (spelling : SpelledAlike (requests.map Request.path)) (begun : done <+: requests) :
    Alike config compiler imports (requests.map Request.path)
      (served { config with useCache := true } compiler imports done)
      (served { config with useCache := false } compiler imports done) := by
  have start : Alike config compiler imports (requests.map Request.path)
      { config := { config with useCache := true } } { config := { config with useCache := false } } :=
    ⟨rfl, rfl, rfl, nofun, nofun⟩
  exact start.after spelling done fun request member => List.mem_map_of_mem (begun.subset member)

/-! ## Asking the compiler -/

/-- What compiling gives rests on the answer to what the compiler was asked, and on nothing else that it would answer. -/
theorem compile_eq_of_agree {workspace : Workspace} {compiler other : Compiler} {imports : Imports} {content : String}
    {path : Path} (version : other.version = compiler.version)
    (agree : ∀ request ∈ (workspace.compile (some compiler) imports content path).requests,
      other.run request imports = compiler.run request imports) :
    workspace.compile (some other) imports content path = workspace.compile (some compiler) imports content path := by
  cases served : workspace.serves path content compiler.version with
  | true => simp only [Workspace.compile, version, served, if_true]
  | false =>
      rw [(compile_settles workspace compiler imports content path served).2, List.forall_mem_singleton] at agree
      simp only [Workspace.compile, Compiler.ask, version, served, Bool.false_eq_true, if_false, agree]

theorem settle_ne_cached (workspace : Workspace) (path : Path) (result : Except Halt (Option SourceFile)) :
    (workspace.settle path result).1 ≠ .ok .cached := by
  rcases result with halt | _ | file <;> nofun

/-- A file is kept when it serves, and this is when the compiler is not asked. -/
theorem compile_asks (workspace : Workspace) (compiler : Compiler) (imports : Imports) (content : String)
    (path : Path) :
    ((workspace.compile (some compiler) imports content path).status = .ok .cached ↔
      workspace.serves path content compiler.version = true) ∧
    (workspace.compile (some compiler) imports content path).requests =
      if workspace.serves path content compiler.version = true then []
      else [Compiler.standardInput path.text content compiler.version workspace.config.standardInput] := by
  cases served : workspace.serves path content compiler.version with
  | true =>
      obtain ⟨effect, requests⟩ := compile_served workspace compiler imports content path served
      exact ⟨iff_of_true (congrArg Prod.fst effect) rfl, requests⟩
  | false =>
      obtain ⟨effect, requests⟩ := compile_settles workspace compiler imports content path served
      refine ⟨iff_of_false ?_ nofun, requests⟩
      rw [show (workspace.compile (some compiler) imports content path).status = _ from congrArg Prod.fst effect]
      exact settle_ne_cached workspace path _

/-- **Keeping files changes no answer.**  After each of a list of requests that write every path in one way, the workspace
that keeps files and the one that does not hold the same files and answer every query alike.  A text is not compiled
again exactly when the file of its path has this text and comes from this version of the compiler; the compiler is then
not asked, and otherwise it is asked once. -/
theorem caching_transparent (config : Config) (compiler : Compiler) (imports : Imports) {requests done : List Request}
    (spelling : SpelledAlike (requests.map Request.path)) (begun : done <+: requests) :
    let cached := served { config with useCache := true } compiler imports done
    let plain := served { config with useCache := false } compiler imports done
    cached.files = plain.files ∧
    (∀ path query, cached.answer path query = plain.answer path query) ∧
    ∀ content path,
      let outcome := cached.compile (some compiler) imports content path
      (outcome.status = .ok .cached ↔
        ∃ file, cached.file? path = some file ∧ file.content = content ∧ file.version = compiler.version) ∧
      (outcome.status = .ok .cached → outcome.requests = []) ∧
      (outcome.status ≠ .ok .cached → outcome.requests =
        [Compiler.standardInput path.text content compiler.version config.standardInput]) ∧
      ∀ other : Compiler, other.version = compiler.version →
        (∀ request ∈ outcome.requests, other.run request imports = compiler.run request imports) →
        cached.compile (some other) imports content path = outcome := by
  intro cached plain
  have alike := alike_served config compiler imports spelling begun
  refine ⟨alike.files, answer_eq_of_files_eq alike.files, fun content path => ?_⟩
  intro outcome
  obtain ⟨kept, asked⟩ := compile_asks cached compiler imports content path
  have keeps : cached.config = { config with useCache := true } := alike.keeps
  refine ⟨?_, ?_, ?_, fun other => compile_eq_of_agree⟩
  · rw [kept, serves_iff, keeps]
    simp
  · intro status
    rw [asked, if_pos (kept.mp status)]
  · intro status
    rw [asked, if_neg fun serves => status (kept.mpr serves), keeps]

/-! ## The sample requests -/

/-- A compiler that takes any text of one path but the empty one. -/
def sampleCompiler : Compiler where
  version := "0.8.28"
  run request _ :=
    match do (← (← (← request.field? "sources").field? "token.sol").field? "content").string? with
    | none | some "" => .error "nothing to compile"
    | some _ =>
        let ast : Json := .object [("id", .int 1), ("nodeType", .string "SourceUnit"), ("src", .string "0:6:0")]
        .ok (.object [("sources", .object [("token.sol", .object [("id", .int 0), ("ast", ast)])])])

/-- An edit that does not compile and is taken back, a file that is forgotten, and another path that never compiles. -/
def sampleRequests : List Request :=
  let token : Path := .ofText "token.sol"
  [.compile "uint x;" token, .compile "" token, .compile "uint x;" token, .evict token,
    .compile "uint x;" (.ofText "other.sol"), .compileIfAbsent "uint y;" token]

/-- The last text of the sample is kept, and another one is not. -/
theorem caching_transparent_sample :
    SpelledAlike (sampleRequests.map Request.path) ∧
    let imports : Imports := fun _ => .error "no imports"
    let cached := served { useCache := true } sampleCompiler imports sampleRequests
    let plain := served { useCache := false } sampleCompiler imports sampleRequests
    cached.files = plain.files ∧
    (cached.compile (some sampleCompiler) imports "uint y;" (.ofText "token.sol")).status = .ok .cached ∧
    (cached.compile (some sampleCompiler) imports "uint y;" (.ofText "token.sol")).requests = [] ∧
    (cached.compile (some sampleCompiler) imports "uint x;" (.ofText "token.sol")).requests =
      [Compiler.standardInput "token.sol" "uint x;" "0.8.28" .null] := by
  have spelling : SpelledAlike (sampleRequests.map Request.path) := by
    rw [SpelledAlike]
    decide +kernel
  refine ⟨spelling, ?_⟩
  intro imports cached plain
  obtain ⟨files, -, compiles⟩ := caching_transparent {} sampleCompiler imports spelling (List.prefix_refl sampleRequests)
  have stored : (cached.file? (.ofText "token.sol")).any
      (fun file => file.content == "uint y;" && file.version == "0.8.28") := by
    decide +kernel
  obtain ⟨file, present, current⟩ := (Option.any_eq_true _ _).mp stored
  rw [Bool.and_eq_true, beq_iff_eq, beq_iff_eq] at current
  obtain ⟨kept, unasked, -, -⟩ := compiles "uint y;" (.ofText "token.sol")
  obtain ⟨edited, -, asked, -⟩ := compiles "uint x;" (.ofText "token.sol")
  have status := kept.mpr ⟨file, present, current⟩
  rw [Path.text_ofText] at asked
  refine ⟨files, status, unasked status, asked ?_⟩
  rw [ne_eq, edited]
  rintro ⟨same, again, content, -⟩
  obtain rfl : file = same := Option.some.inj (present.symm.trans again)
  rw [current.1] at content
  exact absurd content (by decide)

end SolidityNav.Workspace
