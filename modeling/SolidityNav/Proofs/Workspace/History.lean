/-
# Proofs.Workspace.History -- a workspace holds what its calls have left

A history is the list of the calls to a workspace with what each of them replied.  The compiler may do anything at any
call.  `perform_cases` says what one call can do: publish the file of what it submitted, forget a file, or change
nothing.  From it the whole history follows:

* a path has a file when one of its calls replied that it was indexed and no later call has forgotten it, and the file
  is that of what the last such call submitted (`lastIndexed_or_spared`, `exists_file_of_lastIndexed`);
* a call with any other status changes nothing, and no query does;
* a query fails when it cannot be read, and otherwise when its path has no file (`result_answer_eq_error_iff`).

`after_law` puts these together for a workspace that starts empty.
-/
import SolidityNav.Proofs.Workspace.Outcome

namespace SolidityNav.Workspace

set_option autoImplicit false

open SolidityNav.Ast (Node)
open SolidityNav.Compiler (Imports Output)

/-! ## Queries -/

inductive Query where
  | definition (selection : Region)
  | typeDefinition (selection : Region)
  | references (selection : Region)
  | nodeAt (position : Position)
  | textOf (span : Span)
  | textOfSrc (src : String)

inductive Finding where
  | location (found : Option Location)
  | locations (found : List Location)
  | node (found : Option Node)
  | text (found : Option String)

def Answer.map {α β : Type} (change : α → β) (answer : Answer α) : Answer β :=
  ⟨answer.result.map change, answer.log⟩

def answer (workspace : Workspace) (path : Path) : Query → Answer Finding
  | .definition selection => (workspace.definition path selection).map .location
  | .typeDefinition selection => (workspace.typeDefinition path selection).map .location
  | .references selection => (workspace.references path selection).map .locations
  | .nodeAt position => (workspace.nodeAt path position).map .node
  | .textOf span => (workspace.textOf path span).map .text
  | .textOfSrc src => (workspace.textOfSrc path src).map .text

/-- What is wrong with a query, whichever file it is about: a span given as text may not be one. -/
def Query.defect? : Query → Option QueryFailure
  | .textOfSrc src =>
      match Span.parse src with
      | .ok _ => none
      | .error error => some (.invalidArgument error.message)
  | _ => none

theorem result_ask_eq_error_iff {α β : Type} {workspace : Workspace} {path : Path} {query : SourceFile → α}
    {change : α → β} {failure : QueryFailure} :
    ((workspace.ask path query).map change).result = .error failure ↔
      workspace.file? path = none ∧ failure = .unknownFile path := by
  rw [ask, Answer.map]
  cases workspace.file? path with
  | some file => simp [Except.map]
  | none => simp [Except.map, eq_comm]

/-- **A query fails when it cannot be read, and otherwise when its path has no file.** -/
theorem result_answer_eq_error_iff {workspace : Workspace} {path : Path} {query : Query} {failure : QueryFailure} :
    (workspace.answer path query).result = .error failure ↔
      query.defect? = some failure ∨
        (query.defect? = none ∧ workspace.file? path = none ∧ failure = .unknownFile path) := by
  cases query with
  | textOfSrc src =>
      rw [answer, textOfSrc, Query.defect?]
      cases Span.parse src with
      | error error => simp [Answer.map, Except.map, Failure.toQuery]
      | ok span =>
          simp only [textOf, result_ask_eq_error_iff]
          simp
  | definition selection => simp [answer, definition, Query.defect?, result_ask_eq_error_iff]
  | typeDefinition selection => simp [answer, typeDefinition, Query.defect?, result_ask_eq_error_iff]
  | references selection => simp [answer, references, Query.defect?, result_ask_eq_error_iff]
  | nodeAt position => simp [answer, nodeAt, Query.defect?, result_ask_eq_error_iff]
  | textOf span => simp [answer, textOf, Query.defect?, result_ask_eq_error_iff]

/-! ## Calls -/

/-- A call to a workspace, with what the compiler is at the time of the call. -/
inductive Call where
  | compile (compiler : Option Compiler) (imports : Imports) (content : String) (path : Path)
  | compileIfAbsent (compiler : Option Compiler) (imports : Imports) (content : String) (path : Path)
  | ingest (path : Path) (content version : String) (output : Output)
  | evict (path : Path)
  | query (path : Path) (query : Query)

def Call.path : Call → Path
  | .compile _ _ _ path | .compileIfAbsent _ _ _ path | .ingest path _ _ _ | .evict path | .query path _ => path

/-- What a call submits when nothing else serves for it. -/
def Call.submission? (config : Config) : Call → Option Submission
  | .compile compiler imports content path | .compileIfAbsent compiler imports content path => do
      (Submission.compiled config (← compiler) imports content path).toOption
  | .ingest path content version output => some ⟨path, content, version, output⟩
  | .evict _ | .query _ _ => none

inductive Reply where
  | status (status : Except Halt Status)
  | evicted (file : Option SourceFile)
  | answer (answer : Answer Finding)

def perform (workspace : Workspace) : Call → Reply × Workspace
  | .compile compiler imports content path =>
      (workspace.compile compiler imports content path).effect.map .status id
  | .compileIfAbsent compiler imports content path =>
      (workspace.compileIfAbsent compiler imports content path).effect.map .status id
  | .ingest path content version output =>
      (workspace.ingest path content version output).effect.map .status id
  | .evict path => (.evicted (workspace.file? path), workspace.evict path)
  | .query path query => (.answer (workspace.answer path query), workspace)

/-- A call gives a file when it submits what the file is made of. -/
def Call.Gives (config : Config) (call : Call) (file : SourceFile) : Prop :=
  ∃ submission, call.submission? config = some submission ∧ submission.path = call.path ∧
    submission.file? config.origin = .ok (some file)

/-! ## One call -/

theorem settle_cases (workspace : Workspace) (path : Path) (result : Except Halt (Option SourceFile)) :
    (∃ file, result = .ok (some file) ∧ workspace.settle path result = (.ok .indexed, workspace.publish path file)) ∨
      ((workspace.settle path result).1 ≠ .ok .indexed ∧ (workspace.settle path result).2 = workspace) := by
  rcases result with halt | _ | file
  · exact Or.inr ⟨nofun, rfl⟩
  · exact Or.inr ⟨nofun, rfl⟩
  · exact Or.inl ⟨file, rfl, rfl⟩

/-- Compiling publishes the file of what the compiler has answered, or changes nothing. -/
theorem compile_cases (workspace : Workspace) (compiler : Option Compiler) (imports : Imports) (content : String)
    (path : Path) :
    (∃ file, (Call.compile compiler imports content path).Gives workspace.config file ∧
        (workspace.compile compiler imports content path).effect = (.ok .indexed, workspace.publish path file)) ∨
      ((workspace.compile compiler imports content path).effect.1 ≠ .ok .indexed ∧
        (workspace.compile compiler imports content path).effect.2 = workspace) := by
  cases compiler with
  | none => exact Or.inr ⟨nofun, rfl⟩
  | some compiler =>
      cases served : workspace.serves path content compiler.version with
      | true =>
          rw [(compile_served workspace compiler imports content path served).1]
          exact Or.inr ⟨nofun, rfl⟩
      | false =>
          rw [(compile_settles workspace compiler imports content path served).1]
          refine (settle_cases workspace path _).imp ?_ id
          rintro ⟨file, compiled, settled⟩
          obtain ⟨submission, answered, indexed⟩ := exists_of_bind_eq_ok compiled
          have submitted := eq_ok_of_mapError_eq_ok answered
          refine ⟨file, ⟨submission, ?_, (Submission.fields_of_compiled submitted).1, indexed⟩, settled⟩
          simp [Call.submission?, submitted, Except.toOption]

/-- **What one call can do**: publish the file of what it submits, forget a file, or change nothing. -/
theorem perform_cases (workspace : Workspace) (call : Call) :
    (∃ file, call.Gives workspace.config file ∧
        workspace.perform call = (.status (.ok .indexed), workspace.publish call.path file)) ∨
      (∃ path, call = .evict path ∧
        workspace.perform call = (.evicted (workspace.file? path), workspace.evict path)) ∨
      ((workspace.perform call).1 ≠ .status (.ok .indexed) ∧ (∀ path, call ≠ .evict path) ∧
        (workspace.perform call).2 = workspace) := by
  cases call with
  | compile compiler imports content path =>
      rcases compile_cases workspace compiler imports content path with ⟨file, gives, effect⟩ | ⟨other, kept⟩
      · exact Or.inl ⟨file, gives, by rw [perform, effect]; rfl⟩
      · exact Or.inr (Or.inr ⟨fun same => other (Reply.status.inj same), nofun, kept⟩)
  | compileIfAbsent compiler imports content path =>
      rw [perform, compileIfAbsent]
      split
      · exact Or.inr (Or.inr ⟨nofun, nofun, rfl⟩)
      · rcases compile_cases workspace compiler imports content path with ⟨file, gives, effect⟩ | ⟨other, kept⟩
        · exact Or.inl ⟨file, gives, by rw [effect]; rfl⟩
        · exact Or.inr (Or.inr ⟨fun same => other (Reply.status.inj same), nofun, kept⟩)
  | ingest path content version output =>
      rw [perform, ingest_settles]
      rcases settle_cases workspace path ((⟨path, content, version, output⟩ : Submission).file? workspace.config.origin)
        with ⟨file, indexed, settled⟩ | ⟨other, kept⟩
      · exact Or.inl ⟨file, ⟨_, rfl, rfl, indexed⟩, by rw [settled]; rfl⟩
      · exact Or.inr (Or.inr ⟨fun same => other (Reply.status.inj same), nofun, kept⟩)
  | evict path => exact Or.inr (Or.inl ⟨path, rfl, rfl⟩)
  | query path query => exact Or.inr (Or.inr ⟨nofun, nofun, rfl⟩)

structure Event where
  call : Call
  reply : Reply

namespace Event

def Indexes (path : Path) (event : Event) : Prop :=
  event.reply = .status (.ok .indexed) ∧ event.call.path.same path = true

def Evicts (path : Path) (event : Event) : Prop :=
  ∃ named, event.call = .evict named ∧ named.same path = true

/-- The call has left the file of a path alone. -/
def Spares (path : Path) (event : Event) : Prop :=
  ¬ event.Indexes path ∧ ¬ event.Evicts path

end Event

def record (workspace : Workspace) (call : Call) : Event :=
  ⟨call, (workspace.perform call).1⟩

theorem config_perform (workspace : Workspace) (call : Call) :
    (workspace.perform call).2.config = workspace.config := by
  rcases perform_cases workspace call with ⟨file, -, done⟩ | ⟨path, -, done⟩ | ⟨-, -, kept⟩
  · rw [done]; rfl
  · rw [done]; rfl
  · rw [kept]

/-- A call that has indexed a path leaves it the file that the call gives. -/
theorem exists_file_of_indexes {workspace : Workspace} {call : Call} {path : Path}
    (indexes : (workspace.record call).Indexes path) :
    ∃ file, call.Gives workspace.config file ∧ (workspace.perform call).2.file? path = some file := by
  rcases perform_cases workspace call with ⟨file, gives, done⟩ | ⟨_, -, done⟩ | ⟨other, -, -⟩
  · have here : call.path.same path = true := indexes.2
    exact ⟨file, gives, by rw [done, file?_publish, if_pos here]⟩
  · have replied := indexes.1
    rw [record, done] at replied
    cases replied
  · exact absurd indexes.1 other

theorem file?_of_spares {workspace : Workspace} {call : Call} {path : Path}
    (spares : (workspace.record call).Spares path) :
    (workspace.perform call).2.file? path = workspace.file? path := by
  rcases perform_cases workspace call with ⟨file, -, done⟩ | ⟨named, rfl, done⟩ | ⟨-, -, kept⟩
  · have elsewhere : ¬ call.path.same path = true := fun here => spares.1 ⟨by rw [record, done], here⟩
    rw [done, file?_publish, if_neg elsewhere]
  · have elsewhere : ¬ named.same path = true := fun here => spares.2 ⟨named, rfl, here⟩
    rw [done, file?_evict, if_neg elsewhere]
  · rw [kept]

/-- A call that leaves a path with a file has indexed it or left it alone. -/
theorem indexes_or_spares {workspace : Workspace} {call : Call} {path : Path} {file : SourceFile}
    (present : (workspace.perform call).2.file? path = some file) :
    (workspace.record call).Indexes path ∨ (workspace.record call).Spares path := by
  by_cases indexes : (workspace.record call).Indexes path
  · exact Or.inl indexes
  · refine Or.inr ⟨indexes, ?_⟩
    rintro ⟨named, evicting, here⟩
    have same : call = .evict named := evicting
    rw [same, perform, file?_evict, if_pos here] at present
    cases present

/-! ## Histories -/

def after (workspace : Workspace) (calls : List Call) : Workspace :=
  calls.foldl (fun reached call => (reached.perform call).2) workspace

def history (workspace : Workspace) : List Call → List Event
  | [] => []
  | call :: rest => workspace.record call :: history (workspace.perform call).2 rest

/-- The event is the last that has indexed a path, and the path has not been forgotten since. -/
def LastIndexed (path : Path) (events : List Event) (event : Event) : Prop :=
  ∃ earlier later, events = earlier ++ event :: later ∧ event.Indexes path ∧ ∀ next ∈ later, next.Spares path

theorem file?_after_of_spares {workspace : Workspace} {calls : List Call} {path : Path}
    (spared : ∀ event ∈ workspace.history calls, event.Spares path) :
    (workspace.after calls).file? path = workspace.file? path := by
  induction calls generalizing workspace with
  | nil => rfl
  | cons call rest ih =>
      have first := spared _ List.mem_cons_self
      have others := ih fun event member => spared event (List.mem_cons_of_mem _ member)
      exact others.trans (file?_of_spares first)

/-- After the last call that has indexed a path, the path has the file which that call gives. -/
theorem exists_file_of_lastIndexed {workspace : Workspace} {calls : List Call} {path : Path} {event : Event}
    (last : LastIndexed path (workspace.history calls) event) :
    ∃ file, event.call.Gives workspace.config file ∧ (workspace.after calls).file? path = some file := by
  obtain ⟨earlier, later, split, indexes, spared⟩ := last
  induction calls generalizing workspace earlier with
  | nil => simp [history] at split
  | cons call rest ih =>
      cases earlier with
      | nil =>
          obtain ⟨rfl, rfl⟩ := List.cons.inj split
          obtain ⟨file, gives, stored⟩ := exists_file_of_indexes indexes
          exact ⟨file, gives, (file?_after_of_spares spared).trans stored⟩
      | cons first others =>
          obtain ⟨-, splitRest⟩ := List.cons.inj split
          obtain ⟨file, gives, stored⟩ := ih others splitRest
          rw [config_perform] at gives
          exact ⟨file, gives, stored⟩

/-- A file that is there after calls was there before and left alone, or one of the calls was the last to index it. -/
theorem lastIndexed_or_spared {workspace : Workspace} {calls : List Call} {path : Path} {file : SourceFile}
    (present : (workspace.after calls).file? path = some file) :
    (∃ event, LastIndexed path (workspace.history calls) event) ∨
      ((∀ event ∈ workspace.history calls, event.Spares path) ∧ workspace.file? path = some file) := by
  induction calls generalizing workspace with
  | nil => exact Or.inr ⟨by simp [history], present⟩
  | cons call rest ih =>
      rcases ih present with ⟨event, earlier, later, split, indexes, spared⟩ | ⟨spared, before⟩
      · exact Or.inl ⟨event, workspace.record call :: earlier, later, by rw [history, split]; rfl, indexes, spared⟩
      · rcases indexes_or_spares before with indexes | spares
        · exact Or.inl ⟨workspace.record call, [], _, rfl, indexes, spared⟩
        · refine Or.inr ⟨?_, (file?_of_spares spares).symm.trans before⟩
          rw [history, List.forall_mem_cons]
          exact ⟨spares, spared⟩

/-- **A workspace that starts empty holds what its calls have left.**  A path has a file when one of its calls has
indexed it and none has forgotten it since, and the file is the one that the last such call gives.  Calls with any other
status change nothing, and neither do queries, which fail when they cannot be read or their path has no file. -/
theorem after_law (config : Config) (calls : List Call) (path : Path) :
    let start : Workspace := { config := config }
    let reached := start.after calls
    ((∃ file, reached.file? path = some file) ↔ ∃ event, LastIndexed path (start.history calls) event) ∧
    (∀ event, LastIndexed path (start.history calls) event →
      ∃ submission file, event.call.submission? config = some submission ∧ submission.path = event.call.path ∧
        submission.file? config.origin = .ok (some file) ∧ reached.file? path = some file) ∧
    (∀ call status, (reached.perform call).1 = .status status → status ≠ .ok .indexed →
      (reached.perform call).2 = reached) ∧
    (∀ query, (reached.perform (.query path query)).2 = reached ∧
      ∀ failure, (reached.answer path query).result = .error failure ↔
        query.defect? = some failure ∨
          (query.defect? = none ∧ reached.file? path = none ∧ failure = .unknownFile path)) := by
  intro start reached
  refine ⟨⟨?_, ?_⟩, ?_, ?_, fun query => ⟨rfl, fun failure => result_answer_eq_error_iff⟩⟩
  · rintro ⟨file, present⟩
    rcases lastIndexed_or_spared present with last | ⟨-, before⟩
    · exact last
    · cases before
  · rintro ⟨event, last⟩
    obtain ⟨file, -, present⟩ := exists_file_of_lastIndexed last
    exact ⟨file, present⟩
  · intro event last
    obtain ⟨file, ⟨submission, submitted, path, indexed⟩, present⟩ := exists_file_of_lastIndexed last
    exact ⟨submission, file, submitted, path, indexed, present⟩
  · intro call status replied other
    rcases perform_cases reached call with ⟨file, -, done⟩ | ⟨named, -, done⟩ | ⟨-, -, kept⟩
    · rw [done] at replied
      exact absurd (Reply.status.inj replied).symm other
    · rw [done] at replied
      cases replied
    · exact kept

end SolidityNav.Workspace
