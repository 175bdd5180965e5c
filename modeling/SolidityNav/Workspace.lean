/-
# Workspace -- the indexed files of a project

A workspace keeps one indexed file per path.  Compiling a file asks the compiler, indexes the answer and publishes the
file only when its index is complete, the nodes of the other sources included.  Every operation is a function: it
gives its result, the events it reports and the workspace after it.  Queries change nothing.
-/
import SolidityNav.Compiler.Imports
import SolidityNav.Compiler.Output
import SolidityNav.Compiler.StandardInput
import SolidityNav.Location
import SolidityNav.Navigation
import SolidityNav.Workspace.Config

namespace SolidityNav

set_option autoImplicit false

open SolidityNav.Ast (Node)
open SolidityNav.Compiler (Imports Output Diagnostic)

/-- A compiler: its version, and what it answers to a standard-JSON request. -/
structure Compiler where
  version : String
  run : Json → Imports → Except String Json

/-- What the compiler answers to a request, and the request as it was made. -/
def Compiler.ask (compiler : Compiler) (imports : Imports) (request : Json) : Except String Json × List Json :=
  (compiler.run request imports, [request])

/-- The indexed files of a project, each under the first spelling of its path. -/
structure Workspace where
  config : Workspace.Config := {}
  files : List (Path × SourceFile) := []

namespace Workspace

/-! ## Files -/

/-- The file of a path. -/
def file? (workspace : Workspace) (path : Path) : Option SourceFile :=
  (workspace.files.find? fun (key, _) => key.same path).map Prod.snd

/-- Whether a path has a file. -/
def isCompiled (workspace : Workspace) (path : Path) : Bool :=
  (workspace.file? path).isSome

/-- The paths of the files, as first spelled. -/
def paths (workspace : Workspace) : List Path :=
  workspace.files.map Prod.fst

/-- Stores a file; a path that is there keeps its spelling. -/
def storeIn (path : Path) (file : SourceFile) : List (Path × SourceFile) → List (Path × SourceFile)
  | [] => [(path, file)]
  | (key, old) :: rest => if key.same path then (key, file) :: rest else (key, old) :: storeIn path file rest

/-- Publishes a file under a path. -/
def publish (workspace : Workspace) (path : Path) (file : SourceFile) : Workspace :=
  { workspace with files := storeIn path file workspace.files }

/-- Forgets the file of a path. -/
def evict (workspace : Workspace) (path : Path) : Workspace :=
  { workspace with files := workspace.files.filter fun (key, _) => !key.same path }

/-! ## Compiling -/

/-- What became of a request to compile. -/
inductive Status where
  /-- The file that was there serves. -/
  | cached
  /-- A new file was published. -/
  | indexed
  /-- The compiler gave no AST for the file; what was there stays. -/
  | noAst
deriving DecidableEq, Repr

/-- Why a request to compile has no status. -/
inductive Halt where
  | failed (failure : Failure)
  /-- The list of paths would be too long, and the request broke off. -/
  | overflow
deriving DecidableEq

/-- The result of a request to compile. -/
structure Outcome where
  status : Except Halt Status
  log : Log
  workspace : Workspace
  /-- What the compiler was asked, in order. -/
  requests : List Json := []

def pathField (path : Path) : String × Log.Value :=
  ("path", .text path.text)

/-- The event that reports a diagnostic. -/
def diagnosticEvent (path : Path) (diagnostic : Diagnostic) : Log.Event :=
  let text := diagnostic.formatted.getD diagnostic.message
  let message := String.ofList (Text.trimEnd text.toList)
  if diagnostic.isError then ⟨.warn, message, [pathField path, ("kind", .text diagnostic.kind)]⟩
  else ⟨.debug, message, [pathField path, ("severity", .text diagnostic.severity)]⟩

/-- The events for the diagnostics of an answer. -/
def diagnosticEvents (path : Path) (output : Output) : Log :=
  output.diagnostics.map (diagnosticEvent path) ++
    if output.hasErrors then
      [⟨.info, "Compiler reported errors; indexing whatever AST was recovered", [pathField path]⟩]
    else []

/-- The ASTs of the other sources of an answer, in order. -/
def otherAsts (path : Path) (output : Output) : List Json :=
  output.sources.filterMap fun (key, source) => if key = path.text then none else source.ast

/-- Takes the nodes of further ASTs into an index, and reports each one that was indexed. -/
def mergeAll (index : Index) : List Json → Except Failure Index × Log
  | [] => (.ok index, [])
  | ast :: rest =>
      match Index.build ast with
      | .error failure => (.error failure, [])
      | .ok other =>
          let (merged, log) := mergeAll (index.merge other) rest
          (merged, other.builtEvent :: log)

/-- The index of a source together with the other sources of its compilation. -/
def buildAll (ast : Json) (others : List Json) : Except Failure Index × Log :=
  match Index.build ast with
  | .error failure => (.error failure, [])
  | .ok own =>
      let (merged, log) := mergeAll own others
      (merged, own.builtEvent :: log)

/-- Indexes a file from a compiler's answer. -/
def ingest (workspace : Workspace) (path : Path) (content version : String) (output : Output) : Outcome :=
  let reported := diagnosticEvents path output
  match output.source? path with
  | some ⟨number, some ast⟩ =>
      match buildAll ast (otherAsts path output) with
      | (.error failure, log) =>
          { status := .error (.failed failure), log := reported ++ log, workspace := workspace }
      | (.ok index, log) =>
          match output.sourceList? with
          | none => { status := .error .overflow, log := reported ++ log, workspace := workspace }
          | some sources =>
              let file := SourceFile.make path content version number sources workspace.config.origin index
              let event : Log.Event :=
                ⟨.info, "Indexed file",
                  [pathField path, ("nodes", .count index.size), ("sources", .count output.sources.length)]⟩
              { status := .ok .indexed
                log := reported ++ log ++ [event]
                workspace := workspace.publish path file }
  | _ =>
      { status := .ok .noAst
        log := reported ++ [⟨.info, "Compiler produced no AST", [pathField path]⟩]
        workspace := workspace }

/-- Whether the file of a path serves for a text and a compiler version. -/
def serves (workspace : Workspace) (path : Path) (content version : String) : Bool :=
  workspace.config.useCache && (workspace.file? path).any fun file => file.isCurrent content version

/-- Compiles a text as the file at a path and indexes the answer. -/
def compile (workspace : Workspace) (compiler : Option Compiler) (imports : Imports) (content : String)
    (path : Path) : Outcome :=
  match compiler with
  | none => { status := .error (.failed (.compiler "no compiler configured")), log := [], workspace := workspace }
  | some compiler =>
      if workspace.serves path content compiler.version then
        { status := .ok .cached
          log := [⟨.debug, "Content unchanged, reusing index", [pathField path]⟩]
          workspace := workspace }
      else
        let (answered, requests) :=
          compiler.ask imports
            (Compiler.standardInput path.text content compiler.version workspace.config.standardInput)
        let answer : Except Failure Output := do
          Output.ofJson (← answered.mapError .compiler)
        match answer with
        | .error failure =>
            { status := .error (.failed failure), log := [], workspace := workspace, requests := requests }
        | .ok output => { workspace.ingest path content compiler.version output with requests := requests }

/-- Compiles a file unless the path has one. -/
def compileIfAbsent (workspace : Workspace) (compiler : Option Compiler) (imports : Imports) (content : String)
    (path : Path) : Outcome :=
  if workspace.isCompiled path then { status := .ok .cached, log := [], workspace := workspace }
  else workspace.compile compiler imports content path

/-! ## Queries -/

/-- The answer to a query and what it reports. -/
structure Answer (α : Type) where
  result : Except QueryFailure α
  log : Log

/-- Asks the file of a path; without one the query fails and says so. -/
def ask {α : Type} (workspace : Workspace) (path : Path) (query : SourceFile → α) : Answer α :=
  match workspace.file? path with
  | some file => ⟨.ok (query file), []⟩
  | none =>
      ⟨.error (.unknownFile path), [⟨.warn, "Query against a file that is not indexed", [pathField path]⟩]⟩

/-- The file that holds a span seen from `file`, with its path. -/
def owner? (workspace : Workspace) (file : SourceFile) (span : Span) : Option (Path × Option SourceFile) := do
  let path ← file.sourcePath? span.file
  return (path, if path.same file.path then some file else workspace.file? path)

/-- The location of a node seen from `file`. -/
def locate (workspace : Workspace) (file : SourceFile) (node : Node) : Location :=
  let owner := workspace.owner? file node.src
  { id := node.id
    nodeType := node.nodeType
    name := node.name?
    src := node.src
    path := owner.map Prod.fst
    region := do
      let (_, holder) ← owner
      (← holder).region? node.src }

/-- The tightest node around a position. -/
def nodeAt (workspace : Workspace) (path : Path) (position : Position) : Answer (Option Node) :=
  workspace.ask path fun file => do
    file.index.atOffset? (← file.offset? position)

/-- The text of a span of the compilation of a file. -/
def textOf (workspace : Workspace) (path : Path) (span : Span) : Answer (Option String) :=
  workspace.ask path fun file => do
    let (_, holder) ← workspace.owner? file span
    (← holder).text? span

/-- The text of a span given as text. -/
def textOfSrc (workspace : Workspace) (path : Path) (src : String) : Answer (Option String) :=
  match Span.parse src with
  | .ok span => workspace.textOf path span
  | .error error => ⟨.error (Failure.src error).toQuery, []⟩

/-- Where what is selected is declared. -/
def definition (workspace : Workspace) (path : Path) (selection : Region) : Answer (Option Location) :=
  workspace.ask path fun file => (file.definitionAt? selection).map (workspace.locate file)

/-- Where the type of what is selected is. -/
def typeDefinition (workspace : Workspace) (path : Path) (selection : Region) : Answer (Option Location) :=
  workspace.ask path fun file => (file.typeDefinitionAt? selection).map (workspace.locate file)

/-- Where what is selected is used. -/
def references (workspace : Workspace) (path : Path) (selection : Region) : Answer (List Location) :=
  workspace.ask path fun file =>
    ((file.referencesAt? selection).getD []).map (workspace.locate file)

end Workspace

end SolidityNav
