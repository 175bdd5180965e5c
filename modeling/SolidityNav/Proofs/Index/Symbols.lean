/-
# Proofs.Index.Symbols -- what a walk adds to the symbol tables

Entering a node adds its name and its signature to the symbol tables, and leaving it adds all else that it declares.  A
visit adds one entry to a table at most, and which one depends on the visit alone: `Visit.signature?`, `Visit.scopeName?`,
`Visit.varType?`, `Visit.members?` and `Visit.marked?` name the entries.  `Symbols.declareAll` adds those of many visits.
A step of a walk is one such addition (`symbols_advance`), and so is a whole walk (`symbols_foldl_advance`).  The symbol
tables of an index are therefore lists of entries that are read off the tree (`symbols_index`).
-/
import SolidityNav.Proofs.Index.Arena
import SolidityNav.Proofs.Index.Scope
import SolidityNav.Proofs.Table

namespace SolidityNav

set_option autoImplicit false

open SolidityNav.Ast (NodeType RawNode scopeOf)
open SolidityNav.Ast.RawNode (Step Visit)
open SolidityNav.Index (Scope Signature Symbols)

/-! ## What a visit declares -/

namespace Ast.RawNode.Visit

def signature? (kind : NodeType) (visit : Visit) : Option (String × Signature) :=
  if visit.raw.nodeType = kind then
    some (visit.contract?.getD "" ++ "." ++ visit.raw.label, Index.signatureOf visit.raw)
  else none

def scopeName? (visit : Visit) : Option (NodeType × String) :=
  if visit.raw.opensScope then some (visit.raw.nodeType, visit.raw.label) else none

/-- The type of the variable that the node declares, under the names of its scopes and its own. -/
def varType? (visit : Visit) : Option (String × String) :=
  if visit.raw.nodeType = .variableDeclaration then
    visit.raw.name?.map fun name =>
      (visit.contract?.getD "" ++ "." ++ visit.callable?.getD "" ++ "." ++ name, visit.raw.typeString?.getD "")
  else none

def members? (kind : NodeType) (visit : Visit) : Option (String × List String) :=
  if visit.raw.nodeType = kind then visit.raw.name?.map fun name => (name, Index.memberNames visit.raw) else none

/-- The name of the variable right above, when the node is one that marks it. -/
def marked? (marks : RawNode → Bool) (visit : Visit) : Option String :=
  if marks visit.raw then Index.declaredVariable? visit.parent? else none

end Ast.RawNode.Visit

namespace Index

def marksArray (raw : RawNode) : Bool :=
  raw.nodeType = .arrayTypeName

def marksBytes (raw : RawNode) : Bool :=
  raw.name? = some "bytes"

def noteAll (table : Table NodeType Names) (entries : List (NodeType × String)) : Table NodeType Names :=
  entries.foldl
    (fun built entry => Table.update entry.1 (fun names => Names.add (names.getD []) entry.2) built) table

/-- The tables with what visits add to them, on entering and on leaving. -/
def Symbols.declareAll (symbols : Symbols) (entered left : List Visit) : Symbols where
  enums := symbols.enums.insertAll (left.filterMap (Visit.members? .enumDefinition))
  structs := symbols.structs.insertAll (left.filterMap (Visit.members? .structDefinition))
  arrays := symbols.arrays.addAll (left.filterMap (Visit.marked? marksArray))
  bytes := symbols.bytes.addAll (left.filterMap (Visit.marked? marksBytes))
  events := symbols.events.insertAll (entered.filterMap (Visit.signature? .eventDefinition))
  functions := symbols.functions.insertAll (entered.filterMap (Visit.signature? .functionDefinition))
  varTypes := symbols.varTypes.insertAll (left.filterMap Visit.varType?)
  namesByType := noteAll symbols.namesByType (entered.filterMap Visit.scopeName?)

theorem Symbols.declareAll_append (symbols : Symbols) (entered entered' left left' : List Visit) :
    (symbols.declareAll entered left).declareAll entered' left' =
      symbols.declareAll (entered ++ entered') (left ++ left') := by
  simp only [declareAll, noteAll, List.filterMap_append, Table.insertAll_append, Names.addAll_append,
    List.foldl_append]

/-! ## One step -/

/-- The contract of a node that is none itself is that of the scope around it. -/
theorem contract?_of_ne (visit : Visit) (other : visit.raw.nodeType ≠ .contractDefinition) :
    visit.contract? = (scopeOf Scope.inside {} visit.above).contract := by
  rw [RawNode.scopeOf_eq, Visit.contract?, Visit.path, List.find?_cons_of_neg (by simpa using other)]

/-- Entering a node adds its name and its signature. -/
theorem opened_eq (symbols : Symbols) (visit : Visit) :
    opened symbols visit.raw (scopeOf Scope.inside {} visit.above) = symbols.declareAll [visit] [] := by
  rw [opened]
  cases kind : visit.raw.nodeType with
  | functionDefinition | eventDefinition =>
      have contract := contract?_of_ne visit (by simp [kind])
      simp [entering?, enterFunction, enterEvent, noteName, Scope.qualify, Symbols.declareAll, noteAll,
        Visit.signature?, Visit.scopeName?, RawNode.opensScope, RawNode.label, kind, contract, Table.insertAll,
        Names.addAll]
  | _ =>
      simp [entering?, enterContract, noteName, Symbols.declareAll, noteAll, Visit.signature?, Visit.scopeName?,
        RawNode.opensScope, RawNode.label, kind, Table.insertAll, Names.addAll]

theorem filterMap_singleton {α β : Type} (select : α → Option β) (a : α) : [a].filterMap select = (select a).toList := by
  rw [List.filterMap_cons]
  cases select a <;> rfl

theorem noteBytes_eq (symbols : Symbols) (visit : Visit) :
    noteBytes symbols visit.raw visit.parent? =
      { symbols with bytes := symbols.bytes.addAll (visit.marked? marksBytes).toList } := by
  rw [noteBytes, Visit.marked?, marksBytes]
  by_cases named : visit.raw.name? = some "bytes"
  · simp only [named, if_true, decide_true]
    cases declaredVariable? visit.parent? <;> rfl
  · simp [named, Names.addAll]

/-- Leaving a node adds all else that it declares. -/
theorem declare_eq (symbols : Symbols) (visit : Visit) :
    declare symbols visit.raw visit.parent? visit.scope = symbols.declareAll [] [visit] := by
  have arrays : visit.marked? marksArray =
      if visit.raw.nodeType = .arrayTypeName then declaredVariable? visit.parent? else none := by
    simp [Visit.marked?, marksArray]
  rw [declare, noteBytes_eq, visit.scope_eq]
  simp only [Symbols.declareAll, filterMap_singleton, arrays, Visit.members?, Visit.varType?]
  cases kind : visit.raw.nodeType with
  | variableDeclaration =>
      simp only [leaving?, leaveVariable, if_true, reduceCtorEq, if_false]
      cases visit.raw.name? <;> rfl
  | arrayTypeName =>
      simp only [leaving?, leaveArrayType, if_true, reduceCtorEq, if_false]
      cases declaredVariable? visit.parent? <;> rfl
  | enumDefinition =>
      simp only [leaving?, leaveEnum, if_true, reduceCtorEq, if_false]
      cases visit.raw.name? <;> rfl
  | structDefinition =>
      simp only [leaving?, leaveStruct, if_true, reduceCtorEq, if_false]
      cases visit.raw.name? <;> rfl
  | _ => rfl

/-- **A step adds what its visit declares**, and nothing else. -/
theorem symbols_advance {step : Step} (readable : ∀ visit, step.left? = some visit → visit.raw.span? ≠ none)
    (draft : Draft) :
    (draft.advance step).symbols = draft.symbols.declareAll step.entered?.toList step.left?.toList := by
  cases step with
  | enter visit => exact opened_eq draft.symbols visit
  | leave visit =>
      obtain ⟨node, indexed⟩ := node?_isSome (readable visit rfl)
      rw [Draft.advance, indexed]
      exact declare_eq draft.symbols visit

/-! ## A walk -/

theorem symbols_foldl_advance {steps : List Step}
    (readable : ∀ step ∈ steps, ∀ visit, step.left? = some visit → visit.raw.span? ≠ none) (draft : Draft) :
    (steps.foldl Draft.advance draft).symbols =
      draft.symbols.declareAll (steps.filterMap Step.entered?) (steps.filterMap Step.left?) := by
  induction steps generalizing draft with
  | nil => rfl
  | cons step rest ih =>
      obtain ⟨first, others⟩ := List.forall_mem_cons.mp readable
      rw [List.foldl_cons, ih others, symbols_advance first, Symbols.declareAll_append]
      -- A step either enters or leaves, so it goes in front of one of the two lists.
      cases step <;> rfl

/-- **The symbol tables of an index are what its nodes declare**: signatures and names in preorder, all else in
postorder. -/
theorem symbols_index {root : RawNode} (filable : root.Filable) :
    root.index.symbols = Symbols.declareAll {} (root.arrivals []) (root.visits []) := by
  have readable : ∀ step ∈ root.tour [], ∀ visit, step.left? = some visit → visit.raw.span? ≠ none := by
    intro step member visit left
    have visited : visit ∈ root.visits [] := List.mem_filterMap.mpr ⟨step, member, left⟩
    exact filable.readable visit.raw (RawNode.raw_mem_postorder visited)
  exact symbols_foldl_advance readable {}

/-! ## Names by kind -/

/-- **A kind has its names once each**, in the order in which they came first, and nothing when there are none. -/
theorem find?_noteAll (entries : List (NodeType × String)) (kind : NodeType) :
    Table.find? kind (noteAll [] entries) =
      if kind ∈ entries.map Prod.fst then some ((entries.filter (·.1 = kind)).map Prod.snd).eraseDups else none := by
  rw [noteAll, Table.find?_foldl_gather, ← Names.addAll_nil]
  rfl

end Index

end SolidityNav
